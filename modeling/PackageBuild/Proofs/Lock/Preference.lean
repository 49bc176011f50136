import PackageBuild.Proofs.Lock.Counts
import PackageBuild.Proofs.Lock.Holders

/-!
# Writers go first

From the moment a writer has to wait, no reader gets the lock before it: neither one that comes
later nor one that slept already and is woken.  The readers that hold the lock can only leave.

Main results:

- Theorem `Moves.of_waitingWriters_pos`: beside a waiting writer no move lets a reader in.
- Theorem `Run.waits_of_waits`: a thread waits until it gets its side or gives up.
- Theorem `Run.writers_first`: along every run, no reader gets the lock while a writer waits.
-/

namespace PackageBuild.Room

variable {r next : Room} {es fs : List Event} {e : Event} {thread : Nat} {side : Side}

/-! ## One move -/

/-- Beside a waiting writer no reader is let in, so that readers can only leave. -/
theorem Moves.of_waitingWriters_pos (hmove : Moves r e next)
    (hwriters : 0 < r.lock.waitingWriters) :
    (∀ reader, e ≠ .looked reader .read true) ∧ next.lock.readers ≤ r.lock.readers := by
  have hblocked : r.lock.isBlocked .read = true := Lock.isBlocked_read_iff.2 (.inr hwriters)
  have hno : ∀ reader, e ≠ .looked reader .read true := by
    rintro reader rfl
    exact hmove.of_got.1 hblocked
  refine ⟨hno, ?_⟩
  cases e with
  | looked thread side got =>
    cases got with
    | false => exact Nat.le_of_eq hmove.of_not_got.1
    | true =>
      cases side with
      | read => exact absurd rfl (hno thread)
      | write => exact Nat.le_of_eq hmove.of_got.2.1
  | released side =>
    cases side with
    | read => exact Nat.le_of_lt (Nat.lt_of_succ_le (Nat.le_of_eq hmove.of_released_read.1))
    | write => exact Nat.le_of_eq hmove.of_released_write.2.1
  | refused side =>
    cases hmove
    exact Nat.le_refl _
  | abandoned thread side => exact Nat.le_of_eq hmove.of_abandoned.1

/-! ## Whole runs -/

/-- A thread asks for a side until it gets it or gives up. -/
theorem mem_pending_append (h : thread ∈ pending side es) (hgot : .looked thread side true ∉ fs)
    (hgaveUp : .abandoned thread side ∉ fs) : thread ∈ pending side (es ++ fs) := by
  induction fs using List.reverseRecOn with
  | nil => rwa [List.append_nil]
  | append_singleton fs e ih =>
    simp only [List.mem_append, List.mem_singleton, not_or] at hgot hgaveUp
    have hbefore := ih hgot.1 hgaveUp.1
    rw [← List.append_assoc, pending_append]
    cases e with
    | looked other s got =>
      cases got with
      | false => exact mem_pendingAfter_blocked.2 (.inl hbefore)
      | true =>
        refine mem_pendingAfter_got.2 ⟨hbefore, ?_⟩
        rintro ⟨rfl, rfl⟩
        exact hgot.2 rfl
    | abandoned other s =>
      refine mem_pendingAfter_abandoned.2 ⟨hbefore, ?_⟩
      rintro ⟨rfl, rfl⟩
      exact hgaveUp.2 rfl
    | released _ => exact hbefore
    | refused _ => exact hbefore

/-- A thread waits until it gets its side or gives up. -/
theorem Run.waits_of_waits {last : Room} (hbefore : Run {} es r) (hrun : Run r fs last)
    (hwaits : r.Waits thread side) (hgot : .looked thread side true ∉ fs)
    (hgaveUp : .abandoned thread side ∉ fs) : last.Waits thread side := by
  rw [← hbefore.mem_pending_iff] at hwaits
  rw [← (hbefore.append hrun).mem_pending_iff]
  exact mem_pending_append hwaits hgot hgaveUp

/-- The lock counts every writer that waits. -/
theorem Run.waitingWriters_pos (h : Run {} es r) (hwaits : r.Waits thread .write) :
    0 < r.lock.waitingWriters := by
  obtain ⟨s, hs, -, hside⟩ := hwaits
  rw [h.orderly.waiting, List.countP_pos_iff]
  exact ⟨s, hs, decide_eq_true hside⟩

/-- While a writer waits, no reader gets the lock and their number never grows. -/
theorem Run.no_reader_passes {last : Room} {writer : Nat} (hbefore : Run {} es r)
    (hwaits : r.Waits writer .write) (hrun : Run r fs last)
    (hgot : .looked writer .write true ∉ fs) (hgaveUp : .abandoned writer .write ∉ fs) :
    (∀ reader, .looked reader .read true ∉ fs) ∧ last.lock.readers ≤ r.lock.readers := by
  induction hrun using Run.induction_on_moves with
  | nil => exact ⟨fun _ => List.not_mem_nil, Nat.le_refl _⟩
  | @snoc fs between e next hrun hmove ih =>
    simp only [List.mem_append, List.mem_singleton, not_or] at hgot hgaveUp
    obtain ⟨hno, hreaders⟩ := ih hgot.1 hgaveUp.1
    have hstill : between.Waits writer .write :=
      hbefore.waits_of_waits hrun hwaits hgot.1 hgaveUp.1
    obtain ⟨hlet, hfewer⟩ :=
      hmove.of_waitingWriters_pos ((hbefore.append hrun).waitingWriters_pos hstill)
    refine ⟨?_, hfewer.trans hreaders⟩
    intro reader hreader
    rcases List.mem_append.1 hreader with hreader | hreader
    · exact hno reader hreader
    · exact hlet reader (List.mem_singleton.1 hreader).symm

/-- From the moment a writer waits, and until it gets the lock itself or an exception ends its wait,
no reader gets the lock: neither a new one nor one that slept already and is woken.  So the number
of readers only falls from any moment to any later one, whatever other writers do meanwhile. -/
theorem Run.writers_first {between last : Room} {writer : Nat} {gs : List Event}
    (hbefore : Run {} es r) (hwaits : r.Waits writer .write) (hrun : Run r fs between)
    (hrest : Run between gs last) (hgot : .looked writer .write true ∉ fs ++ gs)
    (hgaveUp : .abandoned writer .write ∉ fs ++ gs) :
    (∀ reader, .looked reader .read true ∉ fs ++ gs) ∧
      between.lock.readers ≤ r.lock.readers ∧ last.lock.readers ≤ between.lock.readers ∧
      last.Waits writer .write := by
  have hall := hbefore.no_reader_passes hwaits (hrun.append hrest) hgot hgaveUp
  have hlast := hbefore.waits_of_waits (hrun.append hrest) hwaits hgot hgaveUp
  simp only [List.mem_append, not_or] at hgot hgaveUp
  have hfirst := hbefore.no_reader_passes hwaits hrun hgot.1 hgaveUp.1
  have hstill := hbefore.waits_of_waits hrun hwaits hgot.1 hgaveUp.1
  have hlater := (hbefore.append hrun).no_reader_passes hstill hrest hgot.2 hgaveUp.2
  exact ⟨hall.1, hfirst.2, hlater.2, hlast⟩

/-! ## A writer that is overtaken by another one -/

/-- Two readers have the lock and a writer waits. -/
def crowd : Room := ⟨⟨2, false, 1⟩, [⟨2, .write, false⟩]⟩

/-- A reader has the lock, and another one waits behind the writer. -/
def thinCrowd : Room := ⟨⟨1, false, 1⟩, [⟨2, .write, false⟩, ⟨3, .read, false⟩]⟩

/-- A reader comes and has to wait, and one of the two that have the lock leaves. -/
def thinning : List Event := [.looked 3 .read false, .released .read]

/-- The last reader leaves, and the waiting one is woken and sleeps again; then a new writer comes
and goes before the waiting one looks at the lock. -/
def overtakingWriter : List Event :=
  [.released .read, .looked 3 .read false, .looked 4 .write true, .released .write]

theorem run_crowd :
    Run {} [.looked 1 .read true, .looked 5 .read true, .looked 2 .write false] crowd :=
  .cons (.request .read (by decide)) <| .cons (.request .read (by decide)) <|
    .cons (.request .write (by decide)) <| .nil _

theorem run_thinning : Run crowd thinning thinCrowd :=
  .cons (.request .read (by decide)) <| .cons (.release rfl) <| .nil _

theorem run_overtakingWriter :
    Run thinCrowd overtakingWriter ⟨⟨0, false, 1⟩, [⟨2, .write, true⟩, ⟨3, .read, true⟩]⟩ :=
  .cons (.release rfl) <| .cons (.resume (s := ⟨3, .read, true⟩) (by decide) rfl) <|
    .cons (.request .write (by decide)) <| .cons (.release rfl) <| .nil _

/-- The woken reader has to sleep again although the lock is free, as the writer waits still. -/
theorem writers_first_crowd :
    (∀ reader, .looked reader .read true ∉ thinning ++ overtakingWriter) ∧
      thinCrowd.lock.readers ≤ crowd.lock.readers ∧ 0 ≤ thinCrowd.lock.readers ∧
      Waits ⟨⟨0, false, 1⟩, [⟨2, .write, true⟩, ⟨3, .read, true⟩]⟩ 2 .write :=
  run_crowd.writers_first ⟨⟨2, .write, false⟩, List.mem_cons_self, rfl, rfl⟩ run_thinning
    run_overtakingWriter (by decide) (by decide)

end PackageBuild.Room
