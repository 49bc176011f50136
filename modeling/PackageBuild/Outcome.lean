/-!
# Outcomes of build units

What became of a build unit. The written forms stand in reports as they are.

Main results:

- `ofText?_text`: every written form reads back.
- `mem_all`: the report order names every outcome, and `nodup_all` each once.
-/

namespace PackageBuild

/-- What became of a build unit. -/
inductive Outcome where
  | built
  | prebuilt
  /-- Skipped, since a repository has the package already. -/
  | prebuiltDelta
  | failed
  | unbuilt
  deriving DecidableEq, Repr, Inhabited

namespace Outcome

/-- The written form. -/
def text : Outcome → String
  | built => "Built"
  | prebuilt => "PreBuilt"
  | prebuiltDelta => "PreBuiltDelta"
  | failed => "Failed"
  | unbuilt => "Unbuilt"

/-- The name in capitals. -/
def label : Outcome → String
  | built => "BUILT"
  | prebuilt => "PREBUILT"
  | prebuiltDelta => "PREBUILT_DELTA"
  | failed => "FAILED"
  | unbuilt => "UNBUILT"

/-- All outcomes in report order. -/
def all : List Outcome := [built, prebuilt, prebuiltDelta, failed, unbuilt]

/-- The outcome of a written form. -/
def ofText? (text : String) : Option Outcome := all.find? fun outcome => outcome.text == text

/-- Whether units with this outcome name what holds them back. -/
def isBlocked : Outcome → Bool
  | failed | unbuilt => true
  | _ => false

theorem ofText?_text (outcome : Outcome) : ofText? outcome.text = some outcome := by
  cases outcome <;> decide

/-- The report order names every outcome. -/
theorem mem_all (outcome : Outcome) : outcome ∈ all := by
  cases outcome <;> decide

theorem nodup_all : all.Nodup := by decide

end Outcome

end PackageBuild
