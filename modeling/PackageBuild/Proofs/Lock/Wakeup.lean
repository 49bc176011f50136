import PackageBuild.Proofs.Lock.Orderly

/-!
# Wake-ups

Only the last reader and a writer notify those that sleep, and a request notifies nobody.  This is
enough as long as no waiting writer gives up: whoever sleeps and was not notified has to wait still.
A writer that gives up lets the readers behind it sleep on, and that is the only way to miss a
wake-up.

Main results:

- Theorem `Run.justified`: along every run a thread that was not notified has to wait, or it reads
  and a waiting writer gave up.
- Theorem `Run.noLostWakeup`: without such a writer, nobody sleeps on a lock that is free.
-/

namespace PackageBuild.Room

variable {r next : Room} {es : List Event} {e : Event} {s : Sleeper} {thread : Nat} {side : Side}
  {gaveUp : Prop}

/-- A waiting writer gave up.  None of the four calls on the lock does so by itself. -/
def WriterGaveUp (es : List Event) : Prop := ∃ thread, .abandoned thread .write ∈ es

/-- Whoever sleeps without being notified has to wait, or reads after a waiting writer gave up. -/
def Justified (gaveUp : Prop) (r : Room) : Prop :=
  ∀ s ∈ r.sleepers, s.notified = false →
    r.lock.isBlocked s.side = true ∨ s.side = .read ∧ gaveUp

/-! ## What keeps sleep justified -/

/-- Fewer sleepers on a lock that keeps them waiting sleep with the same right. -/
theorem Justified.mono (h : Justified gaveUp r) (hsleepers : ∀ s ∈ next.sleepers, s ∈ r.sleepers)
    (hblocked : ∀ side, r.lock.isBlocked side = true → next.lock.isBlocked side = true) :
    Justified gaveUp next := by
  intro s hs hnotified
  exact (h s (hsleepers s hs) hnotified).imp_left (hblocked s.side)

/-- With everybody notified there is nothing to justify. -/
theorem Justified.notifyAll (gaveUp : Prop) (r : Room) : Justified gaveUp r.notifyAll := by
  intro s hs hnotified
  obtain ⟨t, -, rfl⟩ := List.mem_map.1 hs
  contradiction

/-- A new sleeper has to wait. -/
theorem Justified.append (h : Justified gaveUp r) (hblocked : r.lock.isBlocked side = true)
    (thread : Nat) :
    Justified gaveUp { r with sleepers := r.sleepers ++ [⟨thread, side, false⟩] } := by
  intro s hs hnotified
  rcases List.mem_append.1 hs with hs | hs
  · exact h s hs hnotified
  · rw [List.mem_singleton] at hs
    rw [hs]
    exact .inl hblocked

/-- A thread that is kept out has a reason to sleep. -/
theorem Justified.sleep (h : Justified gaveUp r) (hblocked : r.lock.isBlocked side = true)
    (thread : Nat) : Justified gaveUp (r.sleep thread side) :=
  (h.append hblocked thread).mono (fun _ hs => hs) fun _ hu => isBlocked_announce_of hu side

/-- Granting a side keeps the reasons to sleep. -/
theorem Justified.grant (h : Justified gaveUp r) (side : Side) : Justified gaveUp (r.grant side) :=
  h.mono (fun _ hs => hs) fun _ hu => Lock.isBlocked_grant side hu

/-- The reasons of others stay when one thread stops sleeping. -/
theorem Justified.without (h : Justified gaveUp r) (thread : Nat) :
    Justified gaveUp (r.without thread) :=
  h.mono (fun _ hs => (mem_without_iff.1 hs).1) fun _ hu => hu

/-- Nobody is let through by a thread that leaves with its side: a reader held nobody up before, and
a writer does so now. -/
theorem Justified.leave (h : Justified gaveUp r) (s : Sleeper) :
    Justified gaveUp ((r.abandon s).grant s.side) := by
  refine (h.without s.thread).mono (fun _ hs => hs) ?_
  intro u hu
  rw [Room.grant, Room.abandon]
  cases s.side with
  | read => exact Lock.isBlocked_grant .read hu
  | write => exact Lock.isBlocked_grant_write _ u

/-- A writer that gives up can let readers through without telling them. -/
theorem Justified.abandon (h : Justified gaveUp r) (s : Sleeper)
    (hgaveUp : s.side = .write → gaveUp) : Justified gaveUp (r.abandon s) := by
  intro t ht hnotified
  have ht' : t ∈ r.sleepers := (mem_without_iff.1 ht).1
  cases hside : s.side with
  | read =>
    rw [Room.abandon, hside]
    exact h t ht' hnotified
  | write =>
    cases hreads : t.side with
    | read => exact .inr ⟨rfl, hgaveUp hside⟩
    | write =>
      have hblocked := h t ht' hnotified
      rw [hreads] at hblocked
      rcases hblocked with hblocked | ⟨hread, -⟩
      · rw [Room.abandon, hside, isBlocked_withdraw]
        exact .inl hblocked
      · contradiction

/-- A reader that is not the last one lets nobody through. -/
theorem Justified.releaseRead (h : Justified gaveUp r) (hmore : 1 < r.lock.readers) :
    Justified gaveUp { r with lock := { r.lock with readers := r.lock.readers - 1 } } := by
  refine h.mono (fun _ hs => hs) ?_
  intro u hu
  cases u with
  | read => exact hu
  | write =>
    rw [Lock.isBlocked_write_iff] at hu ⊢
    exact .inr (Nat.sub_pos_of_lt hmore)

/-- Every move keeps sleep justified. -/
theorem Justified.moves (h : Justified (WriterGaveUp es) r) (hmove : Moves r e next) :
    Justified (WriterGaveUp (es ++ [e])) next := by
  have hbefore : Justified (WriterGaveUp (es ++ [e])) r := by
    intro s hs hnotified
    refine (h s hs hnotified).imp_right ?_
    rintro ⟨hread, thread, hgaveUp⟩
    exact ⟨hread, thread, List.mem_append_left _ hgaveUp⟩
  cases hmove using Moves.effects with
  | sleep thread side _ hblocked => exact hbefore.sleep hblocked thread
  | grant thread side _ _ => exact hbefore.grant side
  | again s _ _ hblocked => exact (hbefore.without s.thread).append hblocked s.thread
  | leave s _ _ _ => exact hbefore.leave s
  | last _ => exact .notifyAll _ _
  | reader hmore => exact hbefore.releaseRead hmore
  | writer _ => exact .notifyAll _ _
  | refuse _ _ _ => exact hbefore
  | abandon s _ =>
    refine hbefore.abandon s ?_
    intro hside
    exact ⟨s.thread, by simp [hside]⟩

/-- Along every run, a thread that was not notified since it went to sleep has to wait, unless it
reads and a waiting writer gave up. -/
theorem Run.justified {es : List Event} {r : Room} (h : Run {} es r) :
    Justified (WriterGaveUp es) r := by
  induction h using Run.induction_on_moves with
  | nil =>
    intro s hs
    contradiction
  | snoc _ hmove ih => exact ih.moves hmove

/-! ## No wake-up is lost -/

/-- No notified thread is left to run. -/
def Quiet (r : Room) : Prop := ∀ s ∈ r.sleepers, s.notified = false

/-- Whoever was not notified waits for something, and nobody waits for a lock that is free. -/
structure NoLostWakeup (r : Room) : Prop where
  /-- A reader that was not notified waits for a writer. -/
  reader : ∀ s ∈ r.sleepers, s.notified = false → s.side = .read →
    r.lock.writing = true ∨ 0 < r.lock.waitingWriters
  /-- A writer that was not notified waits for the holders of the lock. -/
  writer : ∀ s ∈ r.sleepers, s.notified = false → s.side = .write →
    r.lock.writing = true ∨ 0 < r.lock.readers
  /-- With all quiet, nobody waits for a free lock. -/
  free : r.Quiet → r.lock.writing = false → r.lock.readers = 0 → r.sleepers = []
  /-- With all quiet, a writer waits only while the lock is held. -/
  held : r.Quiet → ∀ thread, r.Waits thread .write → r.lock.writing = true ∨ 0 < r.lock.readers
  /-- With all quiet, a reader waits only while a writer holds the lock or waits. -/
  behind : r.Quiet → ∀ thread, r.Waits thread .read →
    r.lock.writing = true ∨ ∃ writer, r.Waits writer .write

/-- No wake-up is lost as long as no waiting writer gives up. -/
theorem Run.noLostWakeup {es : List Event} {r : Room} (h : Run {} es r)
    (hcalls : ¬WriterGaveUp es) : NoLostWakeup r := by
  have hblocked : ∀ s ∈ r.sleepers, s.notified = false → r.lock.isBlocked s.side = true := by
    intro s hs hnotified
    rcases h.justified s hs hnotified with hblocked | ⟨-, hgaveUp⟩
    · exact hblocked
    · exact absurd hgaveUp hcalls
  have hreader : ∀ s ∈ r.sleepers, s.notified = false → s.side = .read →
      r.lock.writing = true ∨ 0 < r.lock.waitingWriters := by
    intro s hs hnotified hside
    rw [← Lock.isBlocked_read_iff, ← hside]
    exact hblocked s hs hnotified
  have hwriter : ∀ s ∈ r.sleepers, s.notified = false → s.side = .write →
      r.lock.writing = true ∨ 0 < r.lock.readers := by
    intro s hs hnotified hside
    rw [← Lock.isBlocked_write_iff, ← hside]
    exact hblocked s hs hnotified
  have hheld : r.Quiet → ∀ thread, r.Waits thread .write →
      r.lock.writing = true ∨ 0 < r.lock.readers := by
    rintro hquiet thread ⟨s, hs, -, hside⟩
    exact hwriter s hs (hquiet s hs) hside
  have hbehind : r.Quiet → ∀ thread, r.Waits thread .read →
      r.lock.writing = true ∨ ∃ writer, r.Waits writer .write := by
    rintro hquiet thread ⟨s, hs, -, hside⟩
    refine (hreader s hs (hquiet s hs) hside).imp_right ?_
    -- The lock counts the writers that wait, so a count above zero stands for one of them.
    intro hcount
    rw [h.orderly.waiting, List.countP_pos_iff] at hcount
    obtain ⟨w, hw, hwrite⟩ := hcount
    exact ⟨w.thread, w, hw, rfl, of_decide_eq_true hwrite⟩
  refine ⟨hreader, hwriter, ?_, hheld, hbehind⟩
  intro hquiet hwriting hreaders
  have hnoWriter : ∀ thread, ¬r.Waits thread .write := by
    intro thread hwaits
    rcases hheld hquiet thread hwaits with hwriting' | hreaders'
    · exact Bool.false_ne_true (hwriting.symm.trans hwriting')
    · omega
  rw [List.eq_nil_iff_forall_not_mem]
  intro s hs
  cases hside : s.side with
  | read =>
    rcases hbehind hquiet s.thread ⟨s, hs, rfl, hside⟩ with hwriting' | ⟨writer, hwaits⟩
    · exact Bool.false_ne_true (hwriting.symm.trans hwriting')
    · exact hnoWriter writer hwaits
  | write => exact hnoWriter s.thread ⟨s, hs, rfl, hside⟩

/-! ## A reader that wakes before the writer -/

/-- A reader has the lock, a writer and a second reader wait.  Both are notified when the first
reader leaves; the second reader looks first and sleeps again, as the writer still waits. -/
def overtaking : List Event :=
  [.looked 1 .read true, .looked 2 .write false, .looked 3 .read false, .released .read,
    .looked 3 .read false, .looked 2 .write true]

theorem run_overtaking : Run {} overtaking ⟨⟨0, true, 0⟩, [⟨3, .read, false⟩]⟩ :=
  .cons (.request .read (by decide)) <| .cons (.request .write (by decide)) <|
    .cons (.request .read (by decide)) <| .cons (.release rfl) <|
      .cons (.resume (s := ⟨3, .read, true⟩) (by decide) rfl) <|
        .cons (.resume (s := ⟨2, .write, true⟩) (by decide) rfl) <| .nil _

/-- The second reader was notified of nothing since, and the writer has the lock. -/
theorem noLostWakeup_overtaking :
    ¬WriterGaveUp overtaking ∧ NoLostWakeup ⟨⟨0, true, 0⟩, [⟨3, .read, false⟩]⟩ ∧
      Quiet ⟨⟨0, true, 0⟩, [⟨3, .read, false⟩]⟩ := by
  have hcalls : ¬WriterGaveUp overtaking := by
    rintro ⟨thread, hgaveUp⟩
    simp [overtaking] at hgaveUp
  exact ⟨hcalls, run_overtaking.noLostWakeup hcalls, by simp [Quiet]⟩

end PackageBuild.Room
