import Mathlib.Data.Finset.Card
import PackageBuild.Proofs.Lock.Holders
import PackageBuild.Workshop

/-!
# The threads inside a workshop

The lock does not know who holds it.  In a workshop it is released by its holders only, so that its
fields are the threads that read and the thread that writes.

Main results:

- Theorem `Held.step`: every step keeps the lock in agreement with the threads inside.
- Theorem `Held.not_reading_of_writing`: while a thread writes, none reads.
-/

namespace PackageBuild

open Progress (Update Reading)

namespace Phase

variable {ρ α : Type}

/-- Whether a thread is reading. -/
def isReading : Phase ρ α → Bool
  | reading .. => true
  | _ => false

/-- Whether a thread is writing. -/
def isWriting : Phase ρ α → Bool
  | writing _ => true
  | _ => false

/-- A thread writes when it is inside a block with some updates done. -/
theorem isWriting_iff {phase : Phase ρ α} :
    phase.isWriting = true ↔ ∃ done, phase = .writing done := by
  cases phase <;> simp [isWriting]

end Phase

namespace Workshop

variable {ρ α : Type} {program : ρ → Reading α} {w next : Workshop ρ α} {e : Event ρ α}
  {thread : Nat} {phase : Phase ρ α} {room : Room}

/-- The lock holds how many threads read and whether one writes, and readers and writers exclude
each other. -/
structure Held (w : Workshop ρ α) : Prop where
  /-- The readers of the lock are the threads that read. -/
  readers : ∃ threads : Finset Nat, threads.card = w.room.lock.readers ∧
    ∀ t, t ∈ threads ↔ (w.phase t).isReading = true
  /-- A writer holds the lock exactly when a thread writes. -/
  writer : w.room.lock.writing = true ↔ ∃ t, (w.phase t).isWriting = true
  /-- No two threads write. -/
  alone : ∀ t t', (w.phase t).isWriting = true → (w.phase t').isWriting = true → t = t'
  /-- No reader holds the lock beside a writer. -/
  exclusive : w.room.lock.writing = true → w.room.lock.readers = 0

/-! ## What the holders exclude -/

/-- While the lock has no writer, no thread writes. -/
theorem Held.not_writing (h : w.Held) (hfree : w.room.lock.writing = false) (t : Nat) :
    (w.phase t).isWriting = false := by
  rw [← Bool.not_eq_true]
  intro hwriting
  have hlock := h.writer.2 ⟨t, hwriting⟩
  rw [hfree] at hlock
  contradiction

/-- While the lock has no readers, no thread reads. -/
theorem Held.not_reading (h : w.Held) (hnone : w.room.lock.readers = 0) (t : Nat) :
    (w.phase t).isReading = false := by
  obtain ⟨threads, hcard, hthreads⟩ := h.readers
  rw [hnone, Finset.card_eq_zero] at hcard
  rw [← Bool.not_eq_true, ← hthreads, hcard]
  exact Finset.notMem_empty t

/-- While a thread writes, none reads. -/
theorem Held.not_reading_of_writing (h : w.Held) (hwriting : (w.phase thread).isWriting = true)
    (t : Nat) : (w.phase t).isReading = false :=
  h.not_reading (h.exclusive (h.writer.2 ⟨thread, hwriting⟩)) t

/-! ## Steps -/

/-- A thread that may look at the lock holds no side. -/
theorem MayLook.isReading_eq {errand : Errand ρ} (h : w.MayLook thread errand) :
    (w.phase thread).isReading = false := by
  rcases h with h | h <;> rw [h] <;> rfl

/-- A thread that may look at the lock does not write. -/
theorem MayLook.isWriting_eq {errand : Errand ρ} (h : w.MayLook thread errand) :
    (w.phase thread).isWriting = false := by
  rcases h with h | h <;> rw [h] <;> rfl

/-- Who reads after the phase of one thread was set. -/
theorem isReading_put (w : Workshop ρ α) (thread : Nat) (phase : Phase ρ α) (t : Nat) :
    ((w.put thread phase).phase t).isReading =
      if t = thread then phase.isReading else (w.phase t).isReading := by
  rw [phase_put]
  split <;> rfl

/-- Who writes after the phase of one thread was set. -/
theorem isWriting_put (w : Workshop ρ α) (thread : Nat) (phase : Phase ρ α) (t : Nat) :
    ((w.put thread phase).phase t).isWriting =
      if t = thread then phase.isWriting else (w.phase t).isWriting := by
  rw [phase_put]
  split <;> rfl

/-- Nothing changes for the holders when the same threads read and write. -/
theorem Held.same (h : w.Held) (hroom : w.room.SameHolders next.room)
    (hreading : ∀ t, (next.phase t).isReading = (w.phase t).isReading)
    (hwriting : ∀ t, (next.phase t).isWriting = (w.phase t).isWriting) : next.Held := by
  obtain ⟨hreaders, hwriter⟩ := hroom
  refine ⟨?_, ?_, ?_, ?_⟩
  · simpa only [hreaders, hreading] using h.readers
  · simpa only [hwriter, hwriting] using h.writer
  · simpa only [hwriting] using h.alone
  · simpa only [hwriter, hreaders] using h.exclusive

/-- A thread may go from one phase to another that holds the same side. -/
theorem Held.put_same (h : w.Held) (next : Workshop ρ α)
    (hroom : w.room.SameHolders next.room) (hphase : next.phase = w.phase)
    (hreading : phase.isReading = (w.phase thread).isReading)
    (hwriting : phase.isWriting = (w.phase thread).isWriting) : (next.put thread phase).Held := by
  refine h.same hroom ?_ ?_
  · intro t
    rw [isReading_put, hphase, hreading]
    split
    · next heq => rw [heq]
    · rfl
  · intro t
    rw [isWriting_put, hphase, hwriting]
    split
    · next heq => rw [heq]
    · rfl

/-- Beginning a block keeps the fields of the lock true. -/
theorem Held.begin (h : w.Held) (hmoves : w.room.Moves (.looked thread .write true) room) :
    ((w.enter room).put thread (.writing [])).Held := by
  obtain ⟨hfree, hnone, hreaders, hwriter⟩ := hmoves.of_got_write
  have hreading (t : Nat) :
      (((w.enter room).put thread (.writing [])).phase t).isReading = false := by
    rw [isReading_put]
    split
    · rfl
    · exact h.not_reading hnone t
  have hwriting (t : Nat) :
      (((w.enter room).put thread (.writing [])).phase t).isWriting = decide (t = thread) := by
    rw [isWriting_put]
    by_cases ht : t = thread
    · rw [if_pos ht, decide_eq_true ht]
      rfl
    · rw [if_neg ht, decide_eq_false ht]
      exact h.not_writing hfree t
  refine ⟨⟨∅, hreaders.symm, ?_⟩, ?_, ?_, fun _ => hreaders⟩
  · simp [hreading]
  · simp only [hwriting, decide_eq_true_eq, exists_eq, iff_true]
    exact hwriter
  · simp only [hwriting, decide_eq_true_eq]
    rintro t t' rfl rfl
    rfl

/-- Finishing a block keeps the fields of the lock true. -/
theorem Held.finish (h : w.Held) {done : List Update} (hinside : w.phase thread = .writing done)
    (hmoves : w.room.Moves (.released .write) room) :
    ((w.enter room).put thread .outside).Held := by
  obtain ⟨hlock, hreaders, hwriter⟩ := hmoves.of_released_write
  have hnone : w.room.lock.readers = 0 := h.exclusive hlock
  have hreading (t : Nat) : (((w.enter room).put thread .outside).phase t).isReading = false := by
    rw [isReading_put]
    split
    · rfl
    · exact h.not_reading hnone t
  have hthread : (w.phase thread).isWriting = true := by
    rw [hinside]
    rfl
  have hwriting (t : Nat) : (((w.enter room).put thread .outside).phase t).isWriting = false := by
    rw [isWriting_put]
    by_cases ht : t = thread
    · rw [if_pos ht]
      rfl
    · rw [if_neg ht, ← Bool.not_eq_true]
      exact fun hother => ht (h.alone t thread hother hthread)
  refine ⟨⟨∅, (hreaders.trans hnone).symm, ?_⟩, ?_, ?_, fun _ => hreaders.trans hnone⟩
  · simp [hreading]
  · simp only [hwriting, Bool.false_eq_true, exists_false, iff_false]
    rw [Bool.not_eq_true]
    exact hwriter
  · simp [hwriting]

/-- Beginning to read keeps the fields of the lock true. -/
theorem Held.open (h : w.Held) {task : ρ} {rest : Reading α}
    (hoff : (w.phase thread).isReading = false)
    (hmoves : w.room.Moves (.looked thread .read true) room) :
    ((w.enter room).put thread (.reading task rest)).Held := by
  obtain ⟨hfree, hreaders, hwriter⟩ := hmoves.of_got_read
  have hwriting (t : Nat) :
      (((w.enter room).put thread (.reading task rest)).phase t).isWriting = false := by
    rw [isWriting_put]
    split
    · rfl
    · exact h.not_writing hfree t
  obtain ⟨threads, hcard, hthreads⟩ := h.readers
  have hnew : thread ∉ threads := by
    rw [hthreads, hoff]
    exact Bool.false_ne_true
  refine ⟨⟨insert thread threads, ?_, ?_⟩, ?_, ?_, ?_⟩
  · rw [Finset.card_insert_of_notMem hnew, hcard]
    exact hreaders.symm
  · intro t
    rw [Finset.mem_insert, isReading_put, hthreads]
    by_cases ht : t = thread
    · simp [ht, Phase.isReading]
    · simp [ht, enter]
  · simp only [hwriting, Bool.false_eq_true, exists_false, iff_false]
    rw [Bool.not_eq_true]
    exact hwriter
  · simp [hwriting]
  · intro hlock
    rw [show ((w.enter room).put thread (.reading task rest)).room = room from rfl, hwriter]
      at hlock
    contradiction

/-- Finishing to read keeps the fields of the lock true. -/
theorem Held.close (h : w.Held) (hinside : (w.phase thread).isReading = true)
    (hmoves : w.room.Moves (.released .read) room) :
    ((w.enter room).put thread .outside).Held := by
  obtain ⟨hreaders, hwriter⟩ := hmoves.of_released_read
  have hoff : (w.phase thread).isWriting = false := by
    rw [← Bool.not_eq_true]
    intro hwriting
    rw [h.not_reading_of_writing hwriting] at hinside
    contradiction
  have hwriting (t : Nat) :
      (((w.enter room).put thread .outside).phase t).isWriting = (w.phase t).isWriting := by
    rw [isWriting_put]
    split
    · next ht =>
      rw [ht, hoff]
      rfl
    · rfl
  obtain ⟨threads, hcard, hthreads⟩ := h.readers
  have hthere : thread ∈ threads := (hthreads thread).2 hinside
  refine ⟨⟨threads.erase thread, ?_, ?_⟩, ?_, ?_, ?_⟩
  · rw [Finset.card_erase_of_mem hthere, hcard, ← hreaders]
    rfl
  · intro t
    rw [Finset.mem_erase, isReading_put, hthreads]
    by_cases ht : t = thread
    · simp [ht, Phase.isReading]
    · simp [ht, enter]
  · simp only [hwriting]
    rw [← h.writer, ← hwriter]
    rfl
  · simp only [hwriting]
    exact h.alone
  · intro hlock
    have hnone := h.exclusive (hwriter ▸ hlock)
    omega

/-- Every step keeps the lock in agreement with the threads inside. -/
theorem Held.step (h : w.Held) (hstep : Step program w e next) : next.Held := by
  cases hstep with
  | wait look moves =>
    exact h.put_same (w.enter _) moves.of_not_got rfl look.isReading_eq.symm
      look.isWriting_eq.symm
  | abandon waiting moves =>
    refine h.put_same (w.enter _) moves.of_abandoned rfl ?_ ?_ <;> rw [waiting] <;> rfl
  | beginBlock look moves => exact h.begin moves
  | update inside accepted =>
    refine h.put_same (w.update _) ⟨rfl, rfl⟩ rfl ?_ ?_ <;> rw [inside] <;> rfl
  | finishBlock inside moves => exact h.finish inside moves
  | openTask look moves => exact h.open look.isReading_eq moves
  | look inside more =>
    refine h.put_same w ⟨rfl, rfl⟩ rfl ?_ ?_ <;> rw [inside] <;> rfl
  | closeTask inside moves => exact h.close (by rw [inside]; rfl) moves

end Workshop

end PackageBuild
