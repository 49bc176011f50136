import PackageBuild.Lock.Run

/-!
# Moves of the lock

What each move does to the lock and to the threads that wait for it, stated once for all invariants,
and the induction by which an invariant of the moves holds along a run.

Main results:

- Theorems `request_of_isBlocked`, `request_of_not_isBlocked`, `resume_of_isBlocked` and
  `resume_of_not_isBlocked`: the room after a thread looked at the lock.
- Theorems `of_release_read` and `of_release_write`: the room after a side was released.
- Theorem `Moves.effects`: all that a move can do.
- Theorem `Run.induction_on_moves`: what holds at the start and is kept by every move holds at the
  end of every run.
-/

namespace PackageBuild

namespace Lock

/-- The read side is released when a reader holds it. -/
theorem releaseRead_eq_ok_iff {l after : Lock} :
    l.releaseRead = .ok after ↔ l.readers ≠ 0 ∧ after = { l with readers := l.readers - 1 } := by
  unfold releaseRead
  split <;> simp [*, eq_comm]

/-- The write side is released when a writer holds it. -/
theorem releaseWrite_eq_ok_iff {l after : Lock} :
    l.releaseWrite = .ok after ↔ l.writing = true ∧ after = { l with writing := false } := by
  unfold releaseWrite
  split <;> simp [*, eq_comm]

/-- Readers are kept out by a writer that holds the lock or waits for it. -/
theorem isBlocked_read_iff {l : Lock} :
    l.isBlocked .read = true ↔ l.writing = true ∨ 0 < l.waitingWriters := by
  simp [isBlocked, Nat.pos_iff_ne_zero]

/-- Writers are kept out by whoever holds the lock. -/
theorem isBlocked_write_iff {l : Lock} :
    l.isBlocked .write = true ↔ l.writing = true ∨ 0 < l.readers := by
  simp [isBlocked, Nat.pos_iff_ne_zero]

/-- A writer that holds the lock keeps everybody waiting. -/
theorem isBlocked_grant_write (l : Lock) (side : Side) :
    (l.grant .write).isBlocked side = true := by
  cases side <;> rfl

/-- Whoever got a side keeps everybody waiting who waited before. -/
theorem isBlocked_grant {l : Lock} {side : Side} (got : Side) (h : l.isBlocked side = true) :
    (l.grant got).isBlocked side = true := by
  cases got with
  | read =>
    cases side with
    | read => exact h
    | write =>
      rw [isBlocked_write_iff]
      exact .inr (Nat.succ_pos _)
  | write => exact isBlocked_grant_write l side

end Lock

namespace Room

variable {r after next : Room} {s : Sleeper} {thread : Nat} {side : Side}

/-! ## Looking at the lock -/

/-- A writer is not kept waiting by its own announcement. -/
@[simp] theorem isBlocked_announce (l : Lock) (side : Side) :
    (announce l side).isBlocked side = l.isBlocked side := by
  cases side <;> rfl

/-- An announcement lets nobody through. -/
theorem isBlocked_announce_of {l : Lock} (h : l.isBlocked side = true) (other : Side) :
    (announce l other).isBlocked side = true := by
  cases other with
  | read => exact h
  | write =>
    cases side with
    | read =>
      rw [Lock.isBlocked_read_iff]
      exact .inr (Nat.succ_pos _)
    | write => exact h

/-- A writer is not let through by taking its announcement back. -/
@[simp] theorem isBlocked_withdraw (l : Lock) (side : Side) :
    (withdraw l side).isBlocked side = l.isBlocked side := by
  cases side <;> rfl

/-- Withdrawing a request undoes its announcement. -/
@[simp] theorem withdraw_announce (l : Lock) (side : Side) :
    withdraw (announce l side) side = l := by
  cases side <;> rfl

/-- The room after a new thread went to sleep. -/
def sleep (r : Room) (thread : Nat) (side : Side) : Room :=
  ⟨announce r.lock side, r.sleepers ++ [⟨thread, side, false⟩]⟩

/-- The room after a side was granted to a thread that does not wait. -/
def grant (r : Room) (side : Side) : Room := { r with lock := r.lock.grant side }

/-- A thread that has to wait goes to sleep. -/
theorem request_of_isBlocked (thread : Nat) (h : r.lock.isBlocked side = true) :
    r.request thread side = (r.sleep thread side, false) := by
  rw [request, look, if_pos]
  · rfl
  · rwa [isBlocked_announce]

/-- A thread that need not wait has its side at once. -/
theorem request_of_not_isBlocked (thread : Nat) (h : ¬r.lock.isBlocked side = true) :
    r.request thread side = (r.grant side, true) := by
  rw [request, look, if_neg]
  · rw [withdraw_announce]
    rfl
  · rwa [isBlocked_announce]

/-- A notified thread that still has to wait sleeps again, behind the others. -/
theorem resume_of_isBlocked (h : r.lock.isBlocked s.side = true) :
    r.resume s = ({ (r.abandon s).sleep s.thread s.side with lock := r.lock }, false) := by
  rw [resume, look, if_pos]
  · rfl
  · exact h

/-- A notified thread that need not wait any more leaves with its side. -/
theorem resume_of_not_isBlocked (h : ¬r.lock.isBlocked s.side = true) :
    r.resume s = ((r.abandon s).grant s.side, true) := by
  rw [resume, look, if_neg]
  · rfl
  · exact h

/-! ## Releasing -/

/-- The last reader notifies everybody when it leaves, and the others nobody. -/
theorem of_release_read (h : r.release .read = .ok after) :
    r.lock.readers = 1 ∧ after = { r with lock := { r.lock with readers := 0 } }.notifyAll ∨
      1 < r.lock.readers ∧
        after = { r with lock := { r.lock with readers := r.lock.readers - 1 } } := by
  rw [release, Lock.release] at h
  cases hlock : r.lock.releaseRead with
  | error e =>
    rw [hlock] at h
    contradiction
  | ok lock =>
    rw [hlock] at h
    cases h
    obtain ⟨hreaders, rfl⟩ := Lock.releaseRead_eq_ok_iff.1 hlock
    by_cases hlast : r.lock.readers = 1
    · exact .inl ⟨hlast, by simp [Lock.wakes, hlast]⟩
    · have hmore : r.lock.readers - 1 ≠ 0 := by omega
      exact .inr ⟨by omega, by simp [Lock.wakes, hmore]⟩

/-- A writer notifies everybody when it leaves. -/
theorem of_release_write (h : r.release .write = .ok after) :
    r.lock.writing = true ∧
      after = { r with lock := { r.lock with writing := false } }.notifyAll := by
  rw [release, Lock.release] at h
  cases hlock : r.lock.releaseWrite with
  | error e =>
    rw [hlock] at h
    contradiction
  | ok lock =>
    rw [hlock] at h
    cases h
    obtain ⟨hwriting, rfl⟩ := Lock.releaseWrite_eq_ok_iff.1 hlock
    exact ⟨hwriting, rfl⟩

/-! ## All that can happen -/

/-- A move has one of these effects: a thread goes to sleep, gets its side at once, sleeps again or
leaves with its side; a reader leaves as the last one or not, a writer leaves, a release fails, or a
thread gives up. -/
@[elab_as_elim]
theorem Moves.effects {motive : ∀ e next, Moves r e next → Prop}
    (sleep : ∀ thread side, (∀ s ∈ r.sleepers, s.thread ≠ thread) → r.lock.isBlocked side = true →
      ∀ h, motive (.looked thread side false) (r.sleep thread side) h)
    (grant : ∀ thread side, (∀ s ∈ r.sleepers, s.thread ≠ thread) → ¬r.lock.isBlocked side = true →
      ∀ h, motive (.looked thread side true) (r.grant side) h)
    (again : ∀ s ∈ r.sleepers, s.notified = true → r.lock.isBlocked s.side = true →
      ∀ h, motive (.looked s.thread s.side false)
        { (r.abandon s).sleep s.thread s.side with lock := r.lock } h)
    (leave : ∀ s ∈ r.sleepers, s.notified = true → ¬r.lock.isBlocked s.side = true →
      ∀ h, motive (.looked s.thread s.side true) ((r.abandon s).grant s.side) h)
    (last : r.lock.readers = 1 → ∀ h,
      motive (.released .read) { r with lock := { r.lock with readers := 0 } }.notifyAll h)
    (reader : 1 < r.lock.readers → ∀ h,
      motive (.released .read) { r with lock := { r.lock with readers := r.lock.readers - 1 } } h)
    (writer : r.lock.writing = true → ∀ h,
      motive (.released .write) { r with lock := { r.lock with writing := false } }.notifyAll h)
    (refuse : ∀ side e, r.release side = .error e → ∀ h, motive (.refused side) r h)
    (abandon : ∀ s ∈ r.sleepers, ∀ h, motive (.abandoned s.thread s.side) (r.abandon s) h)
    {e : Event} {next : Room} (h : Moves r e next) : motive e next h := by
  cases h with
  | @request thread side new =>
    generalize Moves.request side new = h
    by_cases hblocked : r.lock.isBlocked side = true
    · revert h
      rw [request_of_isBlocked thread hblocked]
      exact sleep thread side new hblocked
    · revert h
      rw [request_of_not_isBlocked thread hblocked]
      exact grant thread side new hblocked
  | @resume s hs hnotified =>
    generalize Moves.resume hs hnotified = h
    by_cases hblocked : r.lock.isBlocked s.side = true
    · revert h
      rw [resume_of_isBlocked hblocked]
      exact again s hs hnotified hblocked
    · revert h
      rw [resume_of_not_isBlocked hblocked]
      exact leave s hs hnotified hblocked
  | @release _ side hok =>
    cases side with
    | read =>
      rcases of_release_read hok with ⟨hlast, rfl⟩ | ⟨hmore, rfl⟩
      · exact last hlast _
      · exact reader hmore _
    | write =>
      obtain ⟨hwriting, rfl⟩ := of_release_write hok
      exact writer hwriting _
  | refuse hwrong => exact refuse _ _ hwrong _
  | abandon hs => exact abandon _ hs _

/-! ## Runs -/

/-- What holds at the start and is kept by every move holds at the end of every run. -/
@[elab_as_elim]
theorem Run.induction_on_moves {start : Room} {motive : ∀ es last, Run start es last → Prop}
    (nil : motive [] start (.nil start))
    (snoc : ∀ {es r e next} (hrun : Run start es r), Moves r e next → motive es r hrun →
      ∀ h, motive (es ++ [e]) next h)
    {es : List Event} {last : Room} (hrun : Run start es last) : motive es last hrun := by
  -- The run is taken apart from its front, while `before` is what already happened.
  have hrest : ∀ {r last : Room} {rest : List Event}, Run r rest last →
      ∀ before (hbefore : Run start before r), motive before r hbefore →
        ∀ h, motive (before ++ rest) last h := by
    intro r last rest hrest
    induction hrest with
    | nil r =>
      intro before _ hmotive
      rw [List.append_nil]
      exact fun _ => hmotive
    | cons first _ ih =>
      intro before hbefore hmotive
      have hnext := ih _ (hbefore.append (.cons first (.nil _))) (snoc hbefore first hmotive _)
      rwa [List.append_assoc, List.singleton_append] at hnext
  exact hrest hrun [] (.nil start) nil hrun

end Room

end PackageBuild
