import Mathlib.Data.List.Nodup
import PackageBuild.Proofs.Lock.Moves

/-!
# Orderly rooms

What the lock and the waiting threads have to do with each other at any time, whatever happened
before.

Main results:

- Theorem `perm_without`: without a thread, one sleeper is missing.
- Theorem `Run.orderly`: every run from the empty room leads to an orderly room.
-/

namespace PackageBuild.Room

variable {r after next : Room} {s : Sleeper} {thread : Nat} {side : Side} {e : Event}

/-- Readers and writers exclude each other, no thread waits twice, and the writers that wait are
counted. -/
structure Orderly (r : Room) : Prop where
  /-- No reader holds the lock beside a writer. -/
  exclusive : r.lock.writing = true → r.lock.readers = 0
  /-- No thread waits twice. -/
  nodup : (r.sleepers.map Sleeper.thread).Nodup
  /-- The lock counts the writers that wait. -/
  waiting : r.lock.waitingWriters = r.sleepers.countP fun s => s.side = .write

/-- A thread waits for a side. -/
def Waits (r : Room) (thread : Nat) (side : Side) : Prop :=
  ∃ s ∈ r.sleepers, s.thread = thread ∧ s.side = side

/-! ## Threads that leave -/

/-- Waiting threads with one number are the same. -/
theorem Orderly.eq_of_thread_eq (h : r.Orderly) {s t : Sleeper} (hs : s ∈ r.sleepers)
    (ht : t ∈ r.sleepers) (heq : s.thread = t.thread) : s = t :=
  List.inj_on_of_nodup_map h.nodup hs ht heq

/-- All other threads sleep on when one stops sleeping. -/
theorem mem_without_iff {t : Sleeper} :
    t ∈ (r.without thread).sleepers ↔ t ∈ r.sleepers ∧ t.thread ≠ thread := by
  simp [without]

/-- Without a thread that waits, exactly its sleeper is missing. -/
theorem perm_without (hnodup : (r.sleepers.map Sleeper.thread).Nodup) (hs : s ∈ r.sleepers) :
    (s :: (r.without s.thread).sleepers).Perm r.sleepers := by
  obtain ⟨lock, sleepers⟩ := r
  simp only [without] at hnodup hs ⊢
  induction sleepers with
  | nil => exact absurd hs List.not_mem_nil
  | cons t rest ih =>
    rw [List.map_cons, List.nodup_cons] at hnodup
    obtain ⟨hnew, hnodup⟩ := hnodup
    rcases List.mem_cons.1 hs with rfl | hs
    · have hkept : (rest.filter fun t => decide (t.thread ≠ s.thread)) = rest := by
        rw [List.filter_eq_self]
        intro t ht
        have hne : t.thread ≠ s.thread := fun heq => hnew (heq ▸ List.mem_map_of_mem ht)
        exact decide_eq_true hne
      rw [List.filter_cons_of_neg (by simp), hkept]
    · have hne : t.thread ≠ s.thread := fun heq => hnew (heq ▸ List.mem_map_of_mem hs)
      rw [List.filter_cons_of_pos (by simpa using hne)]
      exact (List.Perm.swap t s _).trans ((ih hnodup hs).cons t)

/-! ## What keeps a room orderly -/

/-- A thread that did not wait may go to sleep. -/
theorem Orderly.sleep (h : r.Orderly) (hnew : ∀ s ∈ r.sleepers, s.thread ≠ thread) (side : Side) :
    (r.sleep thread side).Orderly where
  exclusive := by
    cases side <;> exact h.exclusive
  nodup := by
    rw [Room.sleep, List.map_append]
    refine List.nodup_append.2 ⟨h.nodup, List.nodup_singleton _, ?_⟩
    intro t ht t' ht'
    obtain ⟨s, hs, rfl⟩ := List.mem_map.1 ht
    rw [List.map_singleton, List.mem_singleton] at ht'
    rw [ht']
    exact hnew s hs
  waiting := by
    have hwaiting := h.waiting
    cases side <;> simp [Room.sleep, announce, hwaiting]

/-- A thread that waits may give up. -/
theorem Orderly.abandon (h : r.Orderly) (hs : s ∈ r.sleepers) : (r.abandon s).Orderly where
  exclusive := by
    unfold Room.abandon
    cases s.side <;> exact h.exclusive
  nodup := by
    have hperm := (perm_without h.nodup hs).map Sleeper.thread
    rw [List.map_cons] at hperm
    exact (List.nodup_cons.1 (hperm.nodup_iff.2 h.nodup)).2
  waiting := by
    have hwaiting := h.waiting
    have hperm := (perm_without h.nodup hs).countP_eq fun s => decide (s.side = .write)
    rw [List.countP_cons] at hperm
    cases hside : s.side with
    | read =>
      rw [hside] at hperm
      simpa [Room.abandon, withdraw, hside, hwaiting] using hperm.symm
    | write =>
      rw [hside] at hperm
      simp only [Room.abandon, withdraw, hside]
      simp only [decide_true, if_true] at hperm
      omega

/-- A side that is free may be granted. -/
theorem Orderly.grant (h : r.Orderly) (hfree : ¬r.lock.isBlocked side = true) :
    (r.grant side).Orderly where
  exclusive := by
    cases side with
    | read =>
      rw [Lock.isBlocked_read_iff, not_or] at hfree
      intro hwriting
      exact absurd hwriting hfree.1
    | write =>
      rw [Lock.isBlocked_write_iff, not_or] at hfree
      intro _
      exact Nat.eq_zero_of_not_pos hfree.2
  nodup := h.nodup
  waiting := by
    cases side <;> exact h.waiting

/-- A thread that sleeps again is counted as it was before. -/
theorem Orderly.announce_withdraw (h : r.Orderly) (hs : s ∈ r.sleepers) :
    announce (withdraw r.lock s.side) s.side = r.lock := by
  cases hside : s.side with
  | read => rfl
  | write =>
    have hpos : 0 < r.lock.waitingWriters := by
      rw [h.waiting, List.countP_pos_iff]
      exact ⟨s, hs, decide_eq_true hside⟩
    rw [withdraw, announce, Nat.sub_add_cancel hpos]

/-- A thread that sleeps again makes room for itself. -/
theorem Orderly.again (h : r.Orderly) (hs : s ∈ r.sleepers) :
    Orderly { (r.abandon s).sleep s.thread s.side with lock := r.lock } := by
  have hnew : ∀ t ∈ (r.abandon s).sleepers, t.thread ≠ s.thread := by
    intro t ht
    exact (mem_without_iff.1 ht).2
  have hsleep := (h.abandon hs).sleep hnew s.side
  rwa [Room.sleep, Room.abandon, h.announce_withdraw hs] at hsleep

/-- All threads may be notified. -/
theorem Orderly.notifyAll (h : r.Orderly) : r.notifyAll.Orderly where
  exclusive := h.exclusive
  nodup := by
    have hthreads : (r.notifyAll.sleepers.map Sleeper.thread) = r.sleepers.map Sleeper.thread := by
      simp [Room.notifyAll, Function.comp_def]
    rw [hthreads]
    exact h.nodup
  waiting := by
    rw [Room.notifyAll, List.countP_map]
    exact h.waiting

/-- When a side is given back, the waiting threads stay as they are. -/
theorem Orderly.lower (h : r.Orderly) {readers : Nat} {writing : Bool}
    (hexclusive : writing = true → readers = 0) :
    Orderly { r with lock := { r.lock with readers := readers, writing := writing } } where
  exclusive := hexclusive
  nodup := h.nodup
  waiting := h.waiting

/-- Every move keeps a room orderly. -/
theorem Orderly.moves (h : r.Orderly) (hmove : Moves r e next) : next.Orderly := by
  cases hmove using Moves.effects with
  | sleep thread side hnew _ => exact h.sleep hnew side
  | grant thread side _ hfree => exact h.grant hfree
  | again s hs _ _ => exact h.again hs
  | leave s hs _ hfree =>
    refine (h.abandon hs).grant ?_
    rwa [Room.abandon, isBlocked_withdraw]
  | last _ => exact (h.lower fun _ => rfl).notifyAll
  | reader _ =>
    refine h.lower fun hwriting => ?_
    rw [h.exclusive hwriting]
  | writer _ => exact (h.lower fun hwriting => absurd hwriting Bool.false_ne_true).notifyAll
  | refuse _ _ _ => exact h
  | abandon s hs => exact h.abandon hs

/-- Every run from the empty room leads to an orderly room. -/
theorem Run.orderly {es : List Event} {r : Room} (h : Run {} es r) : r.Orderly := by
  induction h using Run.induction_on_moves with
  | nil => exact ⟨fun _ => rfl, List.nodup_nil, rfl⟩
  | snoc _ hmove ih => exact ih.moves hmove

end PackageBuild.Room
