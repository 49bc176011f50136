import PackageBuild.Proofs.Lock.Moves

/-!
# Moves and holders

What each event says of those who hold the lock, before and after it.

Main results:

- Theorem `Moves.of_got_read`: a reader is let in beside other readers only.
- Theorem `Moves.of_got_write`: a writer is let in when nobody is there.
- Theorems `Moves.of_released_read` and `Moves.of_released_write`: whoever leaves was there.
- Theorems `Moves.of_not_got` and `Moves.of_abandoned`: waiting changes no holder.
-/

namespace PackageBuild.Room

variable {r next : Room} {thread : Nat} {side : Side}

/-- Two locks have the same holders. -/
def SameHolders (r next : Room) : Prop :=
  next.lock.readers = r.lock.readers ∧ next.lock.writing = r.lock.writing

/-- Announcing a request keeps who holds the lock. -/
theorem sameHolders_announce (l : Lock) (side : Side) :
    (announce l side).readers = l.readers ∧ (announce l side).writing = l.writing := by
  cases side <;> exact ⟨rfl, rfl⟩

/-- Withdrawing a request keeps who holds the lock. -/
theorem sameHolders_withdraw (l : Lock) (side : Side) :
    (withdraw l side).readers = l.readers ∧ (withdraw l side).writing = l.writing := by
  cases side <;> exact ⟨rfl, rfl⟩

/-- A thread that has to wait changes no holder. -/
theorem Moves.of_not_got (h : Moves r (.looked thread side false) next) : SameHolders r next := by
  generalize he : Event.looked thread side false = e at h
  cases h using Moves.effects with
  | sleep other s _ _ => exact sameHolders_announce r.lock s
  | again s _ _ _ => exact ⟨rfl, rfl⟩
  | _ => cases he

/-- A thread that gives up changes no holder. -/
theorem Moves.of_abandoned (h : Moves r (.abandoned thread side) next) : SameHolders r next := by
  generalize he : Event.abandoned thread side = e at h
  cases h using Moves.effects with
  | abandon s _ => exact sameHolders_withdraw r.lock s.side
  | _ => cases he

/-- A thread gets its side only where it is not blocked, and only the lock changes by it. -/
theorem Moves.of_got (h : Moves r (.looked thread side true) next) :
    ¬r.lock.isBlocked side = true ∧ next.lock.readers = (r.lock.grant side).readers ∧
      next.lock.writing = (r.lock.grant side).writing := by
  generalize he : Event.looked thread side true = e at h
  cases h using Moves.effects with
  | grant other s _ hfree =>
    cases he
    exact ⟨hfree, rfl, rfl⟩
  | leave s _ _ hfree =>
    cases he
    refine ⟨hfree, ?_⟩
    cases hside : s.side <;>
      simp [Room.grant, Room.abandon, Lock.grant, withdraw, hside]
  | _ => cases he

/-- A reader is let in when no writer is there. -/
theorem Moves.of_got_read (h : Moves r (.looked thread .read true) next) :
    r.lock.writing = false ∧ next.lock.readers = r.lock.readers + 1 ∧
      next.lock.writing = false := by
  obtain ⟨hfree, hreaders, hwriting⟩ := h.of_got
  rw [Lock.isBlocked_read_iff, not_or, Bool.not_eq_true] at hfree
  exact ⟨hfree.1, hreaders, hwriting.trans hfree.1⟩

/-- A writer is let in when nobody is there. -/
theorem Moves.of_got_write (h : Moves r (.looked thread .write true) next) :
    r.lock.writing = false ∧ r.lock.readers = 0 ∧ next.lock.readers = 0 ∧
      next.lock.writing = true := by
  obtain ⟨hfree, hreaders, hwriting⟩ := h.of_got
  rw [Lock.isBlocked_write_iff, not_or, Bool.not_eq_true] at hfree
  have hnone : r.lock.readers = 0 := Nat.eq_zero_of_not_pos hfree.2
  exact ⟨hfree.1, hnone, hreaders.trans hnone, hwriting⟩

/-- A reader that leaves was there. -/
theorem Moves.of_released_read (h : Moves r (.released .read) next) :
    next.lock.readers + 1 = r.lock.readers ∧ next.lock.writing = r.lock.writing := by
  generalize he : Event.released .read = e at h
  cases h using Moves.effects with
  | last hlast => exact ⟨hlast.symm, rfl⟩
  | reader hmore => exact ⟨Nat.sub_add_cancel (Nat.le_of_lt hmore), rfl⟩
  | _ => cases he

/-- A writer that leaves was there. -/
theorem Moves.of_released_write (h : Moves r (.released .write) next) :
    r.lock.writing = true ∧ next.lock.readers = r.lock.readers ∧ next.lock.writing = false := by
  generalize he : Event.released .write = e at h
  cases h using Moves.effects with
  | writer hwriting => exact ⟨hwriting, rfl, rfl⟩
  | _ => cases he

end PackageBuild.Room
