import PackageBuild.Proofs.Workshop.Holders

/-!
# Snapshots in a workshop

Threads read bit by bit while others write.  Still, what a thread has read when it is done is what
it would have read at one blow: while it reads nobody writes, and when it began every block of
updates was either finished or not begun.

Main results:

- Theorem `Run.progress_eq`: no update is lost.
- Theorem `ByBlocks.step`: blocks are finished in the order in which they are begun.
- Theorem `Run.closed_eq`: the result of a task is that of its program on the blocks that were
  finished when the thread got the lock.
- Theorem `Run.finishedUpdates_eq`: when no thread writes, the progress is that of the finished
  blocks.
-/

namespace PackageBuild.Workshop

open Progress (Update Reading)

variable {ρ α : Type} {program : ρ → Reading α} {start w next : Workshop ρ α}
  {es : List (Event ρ α)} {e : Event ρ α} {thread : Nat}

/-- The workshop at the start: nobody is inside or waits. -/
def fresh (p : Progress) : Workshop ρ α := { progress := p }

/-- At first nobody holds the lock. -/
theorem held_fresh (p : Progress) : (fresh p : Workshop ρ α).Held where
  readers := ⟨∅, rfl, fun t => by simp [fresh, Phase.isReading]⟩
  writer := by simp [fresh, Phase.isWriting]
  alone := by
    intro t t' h
    contradiction
  exclusive := fun _ => rfl

/-- In every run the fields of the lock are true. -/
theorem Run.held {p : Progress} (h : Run program (fresh p) es w) : w.Held := by
  induction h with
  | nil => exact held_fresh p
  | snoc _ step ih => exact ih.step step

/-- A thread is in the phase that was set for it. -/
theorem phase_put_self (w : Workshop ρ α) (thread : Nat) (phase : Phase ρ α) :
    (w.put thread phase).phase thread = phase := by
  rw [phase_put, if_pos rfl]

/-! ## Updates and blocks of events -/

/-- An event that neither begins nor finishes a block, and is no update. -/
def Event.isQuiet : Event ρ α → Bool
  | .began _ | .updated .. | .finished .. => false
  | _ => true

/-- The updates of events come one after another. -/
theorem updates_append (es fs : List (Event ρ α)) :
    updates (es ++ fs) = updates es ++ updates fs :=
  List.filterMap_append

theorem updates_of_isQuiet (h : e.isQuiet = true) : updates (es ++ [e]) = updates es := by
  rw [updates_append]
  cases e <;> first | contradiction | exact List.append_nil _

theorem blocks_of_isQuiet (h : e.isQuiet = true) : blocks (es ++ [e]) = blocks es := by
  unfold blocks
  rw [List.filterMap_append]
  cases e <;> first | contradiction | exact List.append_nil _

theorem writers_of_isQuiet (h : e.isQuiet = true) : writers (es ++ [e]) = writers es := by
  unfold writers
  rw [List.filterMap_append]
  cases e <;> first | contradiction | exact List.append_nil _

/-! ## Blocks -/

/-- The updates of a run are those of its blocks. -/
structure ByBlocks (es : List (Event ρ α)) (w : Workshop ρ α) : Prop where
  /-- While no thread writes, all blocks are finished, in the order in which they were begun. -/
  outside : (∀ t, (w.phase t).isWriting = false) →
    updates es = finishedUpdates es ∧ writers es = (blocks es).map Prod.fst
  /-- While a thread writes, its block is the only one that is not finished. -/
  inside : ∀ t done, w.phase t = .writing done →
    updates es = finishedUpdates es ++ done ∧ writers es = (blocks es).map Prod.fst ++ [t]

/-- A quiet event changes no blocks when the same threads write the same. -/
theorem ByBlocks.quiet (h : ByBlocks es w) (hquiet : e.isQuiet = true)
    (hwriting : ∀ t done, next.phase t = .writing done ↔ w.phase t = .writing done) :
    ByBlocks (es ++ [e]) next := by
  have hsettled : finishedUpdates (es ++ [e]) = finishedUpdates es := by
    rw [finishedUpdates, blocks_of_isQuiet hquiet, finishedUpdates]
  refine ⟨?_, ?_⟩
  · intro hnone
    rw [updates_of_isQuiet hquiet, writers_of_isQuiet hquiet, blocks_of_isQuiet hquiet, hsettled]
    refine h.outside fun t => ?_
    rw [← Bool.not_eq_true, Phase.isWriting_iff]
    rintro ⟨done, hdone⟩
    have hnext : (next.phase t).isWriting = true :=
      Phase.isWriting_iff.2 ⟨done, (hwriting t done).2 hdone⟩
    rw [hnone t] at hnext
    contradiction
  · intro t done hdone
    rw [updates_of_isQuiet hquiet, writers_of_isQuiet hquiet, blocks_of_isQuiet hquiet, hsettled]
    exact h.inside t done ((hwriting t done).1 hdone)

/-- A thread that does not write, before or after, changes nothing about who writes what. -/
theorem writing_put_iff {phase : Phase ρ α} (room : Room)
    (hbefore : (w.phase thread).isWriting = false) (hafter : phase.isWriting = false) (t : Nat)
    (done : List Update) :
    ((w.enter room).put thread phase).phase t = .writing done ↔ w.phase t = .writing done := by
  rw [phase_put]
  split
  · next ht =>
    subst ht
    constructor
    · intro heq
      rw [heq] at hafter
      contradiction
    · intro heq
      rw [heq] at hbefore
      contradiction
  · exact Iff.rfl

/-- When a thread writes, only its block is not finished. -/
theorem ByBlocks.of_writing (hheld : w.Held) {done : List Update}
    (hinside : w.phase thread = .writing done) (hupdates : updates es = finishedUpdates es ++ done)
    (hwriters : writers es = (blocks es).map Prod.fst ++ [thread]) : ByBlocks es w := by
  have hthread : (w.phase thread).isWriting = true := Phase.isWriting_iff.2 ⟨done, hinside⟩
  refine ⟨?_, ?_⟩
  · intro hnone
    rw [hnone thread] at hthread
    contradiction
  · intro t done' hdone'
    obtain rfl : t = thread := hheld.alone t thread (Phase.isWriting_iff.2 ⟨done', hdone'⟩) hthread
    cases hinside.symm.trans hdone'
    exact ⟨hupdates, hwriters⟩

/-- When no thread writes, all blocks are finished. -/
theorem ByBlocks.of_not_writing (hnone : ∀ t, (w.phase t).isWriting = false)
    (hupdates : updates es = finishedUpdates es)
    (hwriters : writers es = (blocks es).map Prod.fst) : ByBlocks es w := by
  refine ⟨fun _ => ⟨hupdates, hwriters⟩, ?_⟩
  intro t done hdone
  have hthread := hnone t
  rw [hdone] at hthread
  contradiction

/-- Blocks are finished in the order in which they are begun. -/
theorem ByBlocks.step (h : ByBlocks es w) (hheld : w.Held) (hstep : Step program w e next) :
    ByBlocks (es ++ [e]) next := by
  have hnext : next.Held := hheld.step hstep
  cases hstep with
  | wait look moves => exact h.quiet rfl (writing_put_iff _ look.isWriting_eq rfl)
  | abandon waiting moves =>
    exact h.quiet rfl (writing_put_iff _ (by rw [waiting]; rfl) rfl)
  | openTask look moves => exact h.quiet rfl (writing_put_iff _ look.isWriting_eq rfl)
  | look inside more =>
    exact h.quiet rfl (writing_put_iff w.room (by rw [inside]; rfl) rfl)
  | closeTask inside moves => exact h.quiet rfl (writing_put_iff _ (by rw [inside]; rfl) rfl)
  | @beginBlock thread room look moves =>
    obtain ⟨hupdates, hwriters⟩ := h.outside (hheld.not_writing moves.of_got_write.1)
    refine .of_writing hnext (phase_put_self _ _ _) ?_ ?_
    · simpa [updates, finishedUpdates, blocks] using hupdates
    · simpa [writers, blocks] using hwriters
  | @update thread done u inside accepted =>
    obtain ⟨hupdates, hwriters⟩ := h.inside thread done inside
    have hsettled : finishedUpdates (es ++ [.updated thread u]) =
        finishedUpdates es := by simp [finishedUpdates, blocks]
    refine .of_writing hnext (phase_put_self _ _ _) ?_ ?_
    · rw [updates_append, hupdates, hsettled, List.append_assoc]
      rfl
    · simpa [writers, blocks] using hwriters
  | @finishBlock thread done room inside moves =>
    obtain ⟨hupdates, hwriters⟩ := h.inside thread done inside
    refine .of_not_writing (hnext.not_writing moves.of_released_write.2.2) ?_ ?_
    · simpa [updates, finishedUpdates, blocks] using hupdates
    · simpa [writers, blocks] using hwriters

theorem Run.byBlocks {p : Progress} (h : Run program (fresh p) es w) : ByBlocks es w := by
  induction h with
  | nil => exact .of_not_writing (fun _ => rfl) rfl rfl
  | snoc run step ih => exact ih.step run.held step

/-! ## The progress -/

/-- No update is lost. -/
theorem Run.progress_eq (h : Run program start es w) :
    w.progress = start.progress.run (updates es) := by
  induction h with
  | nil => rfl
  | snoc _ step ih =>
    rw [updates_append, Progress.run_append, ← ih]
    cases step <;> rfl

/-! ## Tasks -/

/-- A thread that reads for a task got the lock when no block was open, nothing was updated since,
and what is left of its reading gives the result of the whole program. -/
structure Since (program : ρ → Reading α) (p : Progress) (earlier later : List (Event ρ α))
    (thread : Nat) (task : ρ) (rest : Reading α) : Prop where
  /-- The thread did not begin another task meanwhile. -/
  last : ∀ other, .opened thread other ∉ later
  /-- Every block was finished or not begun. -/
  closed : updates earlier = finishedUpdates earlier
  /-- Nothing was updated since. -/
  still : updates later = []
  /-- What is left leads to the result of the whole program. -/
  run_rest : rest.run (p.run (finishedUpdates earlier)) =
    (program task).run (p.run (finishedUpdates earlier))

/-- A thread that reads got the lock for its task. -/
def Opened (program : ρ → Reading α) (p : Progress) (es : List (Event ρ α)) (w : Workshop ρ α) :
    Prop :=
  ∀ t task rest, w.phase t = .reading task rest → ∃ earlier later,
    es = earlier ++ .opened t task :: later ∧ Since program p earlier later t task rest

/-- An event that is no update and begins no task of a thread leaves the thread where it was. -/
theorem Since.snoc {p : Progress} {earlier later : List (Event ρ α)} {task : ρ}
    {rest : Reading α} (h : Since program p earlier later thread task rest)
    (hupdates : updates [e] = []) (hother : ∀ other, e ≠ .opened thread other) :
    Since program p earlier (later ++ [e]) thread task rest where
  last := by
    intro other hmem
    rcases List.mem_append.1 hmem with hmem | hmem
    · exact h.last other hmem
    · exact hother other (List.mem_singleton.1 hmem).symm
  closed := h.closed
  still := by
    rw [updates_append, h.still, hupdates]
    rfl
  run_rest := h.run_rest

/-- A step of another thread that is no update leaves a thread where it was. -/
theorem Opened.other {p : Progress} (h : Opened program p es w) {t : Nat} {task : ρ}
    {rest : Reading α} (hphase : w.phase t = .reading task rest) (hupdates : updates [e] = [])
    (hother : ∀ other, e ≠ .opened t other) : ∃ earlier later,
      es ++ [e] = earlier ++ .opened t task :: later ∧
        Since program p earlier later t task rest := by
  obtain ⟨earlier, later, rfl, hsince⟩ := h t task rest hphase
  refine ⟨earlier, later ++ [e], ?_, hsince.snoc hupdates hother⟩
  rw [List.append_assoc, List.cons_append]

/-- A thread that does not read, whatever it did before, changes nothing for the others. -/
theorem Opened.put {p : Progress} (h : Opened program p es w) {room : Room} {phase : Phase ρ α}
    (hoff : phase.isReading = false) (hupdates : updates [e] = [])
    (hother : ∀ t other, e ≠ .opened t other) :
    Opened program p (es ++ [e]) ((w.enter room).put thread phase) := by
  intro t task rest hphase
  rw [phase_put] at hphase
  split at hphase
  · rw [hphase] at hoff
    contradiction
  · exact h.other hphase hupdates (hother t)

/-- A thread that got the read side has read nothing yet. -/
theorem Opened.open {p : Progress} (h : Opened program p es w) {room : Room} {task : ρ}
    (hclosed : updates es = finishedUpdates es) :
    Opened program p (es ++ [.opened thread task])
      ((w.enter room).put thread (.reading task (program task))) := by
  intro t task' rest hphase
  rw [phase_put] at hphase
  split at hphase
  · next ht =>
    cases hphase
    subst ht
    exact ⟨es, [], rfl, ⟨fun _ => List.not_mem_nil, hclosed, rfl, rfl⟩⟩
  · next ht =>
    refine h.other hphase rfl fun other heq => ht ?_
    cases heq
    rfl

/-- A thread that makes a single read sees the progress as it was when it got the lock. -/
theorem Opened.look {p : Progress} (h : Opened program p es w)
    (hprogress : w.progress = p.run (updates es)) {task : ρ} {rest left : Reading α}
    (hinside : w.phase thread = .reading task rest) (hmore : rest.next? w.progress = some left) :
    Opened program p (es ++ [.looked thread]) (w.put thread (.reading task left)) := by
  intro t task' rest' hphase
  rw [phase_put] at hphase
  split at hphase
  · next ht =>
    cases hphase
    subst ht
    obtain ⟨earlier, later, rfl, hsince⟩ := h t task rest hinside
    have hsame : w.progress = p.run (finishedUpdates earlier) := by
      have hupdates : updates (earlier ++ .opened t task :: later) = updates earlier := by
        rw [updates_append, ← List.singleton_append, updates_append, hsince.still]
        exact List.append_nil _
      rw [hprogress, hupdates, hsince.closed]
    refine ⟨earlier, later ++ [.looked t], ?_, ?_⟩
    · rw [List.append_assoc, List.cons_append]
    · have hsnoc := hsince.snoc (e := .looked t) rfl fun _ heq => by cases heq
      refine { hsnoc with run_rest := ?_ }
      rw [← hsince.run_rest]
      exact Reading.run_of_next? (hsame ▸ hmore)
  · exact h.other hphase rfl fun _ heq => by cases heq

/-- Every step keeps what is known of the threads that read. -/
theorem Opened.step {p : Progress} (h : Opened program p es w) (hrun : Run program (fresh p) es w)
    (hstep : Step program w e next) : Opened program p (es ++ [e]) next := by
  have hnext : next.Held := hrun.held.step hstep
  cases hstep with
  | wait look moves => exact h.put rfl rfl fun _ _ heq => by cases heq
  | abandon waiting moves => exact h.put rfl rfl fun _ _ heq => by cases heq
  | beginBlock look moves => exact h.put rfl rfl fun _ _ heq => by cases heq
  | finishBlock inside moves => exact h.put rfl rfl fun _ _ heq => by cases heq
  | closeTask inside moves => exact h.put rfl rfl fun _ _ heq => by cases heq
  | openTask look moves =>
    exact h.open (hrun.byBlocks.outside (hrun.held.not_writing moves.of_got_read.1)).1
  | look inside more => exact h.look hrun.progress_eq inside more
  | @update thread done u inside accepted =>
    -- Beside a thread that writes there is none that reads.
    intro t task rest hphase
    have hwriting : (((w.update u).put thread (.writing (done ++ [u]))).phase thread).isWriting =
        true := by
      rw [phase_put_self]
      rfl
    have hreading := hnext.not_reading_of_writing hwriting t
    rw [hphase] at hreading
    contradiction

theorem Run.opened {p : Progress} (h : Run program (fresh p) es w) : Opened program p es w := by
  induction h with
  | nil =>
    intro t task rest hphase
    contradiction
  | snoc run step ih => exact ih.step run step

/-! ## Whole runs -/

/-- The result of a task is that of its program on the blocks that were finished when the thread got
the lock. -/
theorem Run.closed_eq {p : Progress} {before after : List (Event ρ α)} {task : ρ} {result : α}
    (h : Run program (fresh p) (before ++ .closed thread task result :: after) w) :
    ∃ earlier later, before = earlier ++ .opened thread task :: later ∧
      (∀ other, .opened thread other ∉ later) ∧ updates earlier = finishedUpdates earlier ∧
        result = (program task).run (p.run (finishedUpdates earlier)) := by
  obtain ⟨v, next, hrun, hstep⟩ := h.split
  cases hstep with
  | closeTask inside moves =>
    obtain ⟨earlier, later, hbefore, hsince⟩ := hrun.opened thread task _ inside
    exact ⟨earlier, later, hbefore, hsince.last, hsince.closed, hsince.run_rest⟩

/-- When no thread writes, the progress is that of the finished blocks, in the order in which they
were begun. -/
theorem Run.finishedUpdates_eq {p : Progress} (h : Run program (fresh p) es w)
    (hfree : w.room.lock.writing = false) :
    w.progress = p.run (finishedUpdates es) ∧ updates es = finishedUpdates es ∧
      writers es = (blocks es).map Prod.fst := by
  obtain ⟨hupdates, hwriters⟩ := h.byBlocks.outside (h.held.not_writing hfree)
  refine ⟨?_, hupdates, hwriters⟩
  rw [h.progress_eq, hupdates]
  rfl

end PackageBuild.Workshop
