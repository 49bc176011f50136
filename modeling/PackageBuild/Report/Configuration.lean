import PackageBuild.Environment
import PackageBuild.Value.Display
import PackageBuild.Value.Named

/-!
# Configuration of reports

A report is configured by whether the toolchain may be built again and where the table goes, if
anywhere. Both may come from the environment.
-/

namespace PackageBuild.Report

/-- How a build is reported. -/
structure Configuration where
  allowRebuilds : Bool := false
  tablePath? : Option Path := none

namespace Configuration

/-- The variable that allows to build the toolchain again. -/
def allowVariable : String := "ALLOW_TOOLCHAIN_REBUILDS"

/-- The variable that names the file of the table. -/
def tableVariable : String := "BUILD_SUMMARY_FILE"

/-- The configuration that the environment asks for, and what reading it logs. -/
def ofEnvironment (e : Environment) :
    Except Environment.HomeUnknown Configuration × List Log.Record :=
  let (allow?, records) := e.readSwitch allowVariable (some false) .default true
  ((e.readPath tableVariable none).map fun path? => ⟨allow?.getD false, path?⟩, records)

/-- Why a configuration given by name is refused. -/
inductive Refusal where
  | unnamed (refusal : Named.Refusal)
  | fault (fault : Value.Fault)
  deriving DecidableEq, Repr

/-- The text of a refusal. -/
def Refusal.message : Refusal → String
  | unnamed refusal => refusal.message "BuildSummaryConfig.__init__"
  | fault f => f.message

/-- The names of the settings. -/
def names : List String := ["allow_toolchain_rebuilds", "csv_path"]

/-- The path that a value names; nothing names none. -/
def pathOf? : Value → Except Value.Fault (Option Path)
  | .null => .ok none
  | v => v.toPath.map some

/-- The configuration that is given by name. -/
def read (given : Named) : Except Refusal Configuration := do
  let path? ← (pathOf? (given.valueD "csv_path" .null)).mapError .fault
  match given.refusal? names ["self"] with
  | some refusal => throw (.unnamed refusal)
  | none => return ⟨(given.valueD "allow_toolchain_rebuilds" (.bool false)).isTrue, path?⟩

end Configuration

end PackageBuild.Report
