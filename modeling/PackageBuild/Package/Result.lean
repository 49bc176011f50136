import PackageBuild.Package.Node

/-!
# Results of build workers

What a worker reports about a node, and the failures that are kept of it.
-/

namespace PackageBuild

/-- A failed attempt to build a node. -/
structure Failure where
  node : Node
  error : Value
  logFile : Value := .text ""
  deriving Repr

namespace Failure

/-- A failure as a value. -/
def toValue (f : Failure) : Value := .record .failure [f.node.toValue, f.error, f.logFile]

/-- The failure of a value. -/
def ofValue? : Value → Option Failure
  | .record .failure [node, error, logFile] =>
    (Node.ofValue? node).map fun node => ⟨node, error, logFile⟩
  | _ => none

@[simp] theorem ofValue?_toValue (f : Failure) : ofValue? f.toValue = some f := rfl

/-- Whether two failures have equal parts. -/
def same (f g : Failure) : Bool := f.toValue.same g.toValue

end Failure

/-- What a worker reports about a node. -/
structure Result where
  node : Node
  /-- What went wrong, if anything did; an empty text is an error too. -/
  error? : Option Value := none
  logFile : Value := .text ""
  builtFiles : Value := .tuple []
  usedCache : Bool := false
  skipped : Bool := false
  wasDelta : Value := .bool false
  deriving Repr

namespace Result

/-- The failure to keep of a result. -/
def failure? (r : Result) : Option Failure :=
  r.error?.map fun error => ⟨r.node, error, r.logFile⟩

/-- The error of a value: nothing is no error. -/
def errorOf? : Value → Option Value
  | .null => none
  | v => some v

/-- The result of a value whose node is given. -/
def ofParts (node : Node) : List Value → Option Result
  | [error, logFile, builtFiles, usedCache, skipped, wasDelta] =>
    some ⟨node, errorOf? error, logFile, builtFiles, usedCache.isTrue, skipped.isTrue, wasDelta⟩
  | _ => none

/-- The result of a value. -/
def ofValue? : Value → Option Result
  | .record .result (node :: parts) => (Node.ofValue? node).bind fun node => ofParts node parts
  | _ => none

/-- A result as a value. -/
def toValue (r : Result) : Value :=
  .record .result
    [r.node.toValue, r.error?.getD .null, r.logFile, r.builtFiles, .bool r.usedCache,
      .bool r.skipped, r.wasDelta]

@[simp] theorem ofValue?_toValue (r : Result) (h : r.error? ≠ some .null) :
    ofValue? r.toValue = some r := by
  obtain ⟨node, error?, logFile, builtFiles, usedCache, skipped, wasDelta⟩ := r
  cases error? with
  | none => cases usedCache <;> cases skipped <;> rfl
  | some error =>
    have : errorOf? error = some error := by
      cases error <;> first | rfl | exact absurd rfl h
    cases usedCache <;> cases skipped <;>
      simp [toValue, ofValue?, ofParts, this, Value.isTrue, Value.isEmpty]

end Result

end PackageBuild
