import PackageBuild.Progress.Basic

/-!
# Reading the progress

A report reads the progress bit by bit: the list of failures, one flag of a node, one list of
conflicts. A reading is a program of such single reads, so that it can be run on one progress or
between the updates of others.

Main results:

- `run_pure` and `run_bind`: running readings one after another on one progress.
- `run_of_next?`: reading bit by bit what does not change gives the same result.
-/

namespace PackageBuild.Progress

/-- A program of single reads of the progress. -/
inductive Reading (α : Type) where
  | done (a : α)
  | failures (next : List Failure → Reading α)
  | cached (node : Node) (next : Bool → Reading α)
  | delta (node : Node) (next : Bool → Reading α)
  | available (node : Node) (next : Bool → Reading α)
  | binaryConflicts (next : List Value → Reading α)
  | sourceConflicts (next : List Value → Reading α)

namespace Reading

variable {α β : Type}

/-- One reading after another. -/
def bind : Reading α → (α → Reading β) → Reading β
  | done a, f => f a
  | failures next, f => failures fun x => (next x).bind f
  | cached node next, f => cached node fun x => (next x).bind f
  | delta node next, f => delta node fun x => (next x).bind f
  | available node next, f => available node fun x => (next x).bind f
  | binaryConflicts next, f => binaryConflicts fun x => (next x).bind f
  | sourceConflicts next, f => sourceConflicts fun x => (next x).bind f

instance : Monad Reading where
  pure := done
  bind := bind

/-- The result of a reading of one progress. -/
def run (p : Progress) : Reading α → α
  | done a => a
  | failures next => (next p.failures).run p
  | cached node next => (next (p.isCached node)).run p
  | delta node next => (next (p.isDelta node)).run p
  | available node next => (next (p.isAvailable node)).run p
  | binaryConflicts next => (next p.binaryConflicts).run p
  | sourceConflicts next => (next p.sourceConflicts).run p

/-- What is left of a reading after its next single read of one progress; nothing when it is done.
-/
def next? (p : Progress) : Reading α → Option (Reading α)
  | done _ => none
  | failures next => some (next p.failures)
  | cached node next => some (next (p.isCached node))
  | delta node next => some (next (p.isDelta node))
  | available node next => some (next (p.isAvailable node))
  | binaryConflicts next => some (next p.binaryConflicts)
  | sourceConflicts next => some (next p.sourceConflicts)

/-- Read the failures. -/
def getFailures : Reading (List Failure) := failures done

/-- Read whether an artifact from before satisfies a node. -/
def getCached (node : Node) : Reading Bool := cached node done

/-- Read whether a repository has the package of a node already. -/
def getDelta (node : Node) : Reading Bool := delta node done

/-- Read whether a node need not be built any more. -/
def getAvailable (node : Node) : Reading Bool := available node done

/-- Read the conflicts of binary packages. -/
def getBinaryConflicts : Reading (List Value) := binaryConflicts done

/-- Read the conflicts of source packages. -/
def getSourceConflicts : Reading (List Value) := sourceConflicts done

@[simp] theorem run_pure (p : Progress) (a : α) : run p (pure a : Reading α) = a := rfl

/-- Reading goes on with what was read. -/
@[simp] theorem run_bind (p : Progress) (r : Reading α) (f : α → Reading β) :
    run p (r >>= f) = run p (f (run p r)) := by
  show run p (r.bind f) = _
  induction r with
  | done a => rfl
  | failures next ih => exact ih _
  | cached node next ih => exact ih _
  | delta node next ih => exact ih _
  | available node next ih => exact ih _
  | binaryConflicts next ih => exact ih _
  | sourceConflicts next ih => exact ih _

/-- A single read of a progress does not change the result on it. -/
theorem run_of_next? {p : Progress} {r rest : Reading α} (h : r.next? p = some rest) :
    run p rest = run p r := by
  cases r <;> cases h <;> rfl

@[simp] theorem run_getFailures (p : Progress) : run p getFailures = p.failures := rfl

@[simp] theorem run_getCached (p : Progress) (node : Node) :
    run p (getCached node) = p.isCached node := rfl

@[simp] theorem run_getDelta (p : Progress) (node : Node) :
    run p (getDelta node) = p.isDelta node := rfl

@[simp] theorem run_getAvailable (p : Progress) (node : Node) :
    run p (getAvailable node) = p.isAvailable node := rfl

@[simp] theorem run_getBinaryConflicts (p : Progress) :
    run p getBinaryConflicts = p.binaryConflicts := rfl

@[simp] theorem run_getSourceConflicts (p : Progress) :
    run p getSourceConflicts = p.sourceConflicts := rfl

end Reading

end PackageBuild.Progress
