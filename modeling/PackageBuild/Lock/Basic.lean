/-!
# The reader-writer lock

Any number of readers may hold the lock together, and a writer alone. A waiting writer goes before
readers that come later. The lock does not know its owners: whoever releases, releases.

Main results:

- `releaseRead_eq_error_iff` and `releaseWrite_eq_error_iff`: a release fails exactly when that side
  is not held.
-/

namespace PackageBuild

/-- The two sides of the lock. -/
inductive Side where
  | read
  | write
  deriving DecidableEq, Repr

/-- Who holds the lock and how many writers wait for it. -/
structure Lock where
  readers : Nat := 0
  writing : Bool := false
  waitingWriters : Nat := 0
  deriving DecidableEq, Repr, Inhabited

namespace Lock

/-- A side was released that nobody holds. -/
structure NotHeld where
  side : Side
  deriving DecidableEq, Repr

/-- The text of a wrong release. -/
def NotHeld.message (e : NotHeld) : String :=
  match e.side with
  | .read => "release_read called without a held read lock."
  | .write => "release_write called without a held write lock."

/-- Whether a request for a side has to wait. -/
def isBlocked (l : Lock) : Side → Bool
  | .read => l.writing || l.waitingWriters ≠ 0
  | .write => l.writing || l.readers ≠ 0

/-- The lock after a request was granted. -/
def grant (l : Lock) : Side → Lock
  | .read => { l with readers := l.readers + 1 }
  | .write => { l with writing := true }

/-- The lock after a request that need not wait; `none` if it has to. -/
def acquire? (l : Lock) (side : Side) : Option Lock :=
  if l.isBlocked side then none else some (l.grant side)

/-- The lock after a reader released it. -/
def releaseRead (l : Lock) : Except NotHeld Lock :=
  if l.readers = 0 then .error ⟨.read⟩ else .ok { l with readers := l.readers - 1 }

/-- The lock after a writer released it. -/
def releaseWrite (l : Lock) : Except NotHeld Lock :=
  if l.writing then .ok { l with writing := false } else .error ⟨.write⟩

/-- The lock after a side was released. -/
def release (l : Lock) : Side → Except NotHeld Lock
  | .read => l.releaseRead
  | .write => l.releaseWrite

/-- Whether releasing a side wakes those who wait: the last reader does, and every writer. -/
def wakes (after : Lock) : Side → Bool
  | .read => after.readers = 0
  | .write => true

/-- Releasing the read side fails exactly when no reader holds it. -/
theorem releaseRead_eq_error_iff {l : Lock} : l.releaseRead = .error ⟨.read⟩ ↔ l.readers = 0 := by
  unfold releaseRead
  split <;> simp [*]

/-- Releasing the write side fails exactly when no writer holds it. -/
theorem releaseWrite_eq_error_iff {l : Lock} :
    l.releaseWrite = .error ⟨.write⟩ ↔ l.writing = false := by
  unfold releaseWrite
  split <;> simp [*]

end Lock

end PackageBuild
