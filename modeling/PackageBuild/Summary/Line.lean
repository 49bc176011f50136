import PackageBuild.Classification.Basic
import PackageBuild.Log
import PackageBuild.Summary.Options
import PackageBuild.Text.Decimal
import PackageBuild.Text.Split

/-!
# The summary for people

The summary is a list of lines, each with the level it is logged at: a banner, a count for every
outcome and for the unresolved dependencies, the name conflicts with the toolchain, a section for
every outcome that has units, and the unresolved dependencies.
-/

namespace PackageBuild.Summary

/-- A line and the level it is logged at. -/
structure Line where
  level : Int
  text : String
  deriving DecidableEq, Repr, Inhabited

/-- The logger of summaries. -/
def logger : String := "build_report.summary"

/-- A line of plain news. -/
def news (text : String) : Line := ⟨Log.info, text⟩

/-- An item of a list. -/
def item (level : Int) (text : String) : Line := ⟨level, "--> " ++ text⟩

/-- The lines at the top. -/
def banner : List String :=
  ["---------------------------", "--------- Summary ---------", "---------------------------"]

/-- The text in front of the count of an outcome. -/
def countLabel : Outcome → String
  | .built => "Number of built SRPMs:             "
  | .prebuilt => "Number of prebuilt SRPMs:          "
  | .prebuiltDelta => "Number of prebuilt delta SRPMs:    "
  | .failed => "Number of failed SRPMs:            "
  | .unbuilt => "Number of blocked SRPMs:           "

/-- The text in front of the count of unresolved dependencies. -/
def unresolvedLabel : String := "Number of unresolved dependencies: "

/-- The header of the section of an outcome. -/
def header : Outcome → String
  | .built => "Built SRPMs:"
  | .prebuilt => "Prebuilt SRPMs:"
  | .prebuiltDelta =>
    "Skipped SRPMs (i.e., delta mode is on, packages are already available in a repo):"
  | .failed => "Failed SRPMs:"
  | .unbuilt => "Blocked SRPMs:"

/-- The header of the unresolved dependencies. -/
def unresolvedHeader : String := "Unresolved dependencies:"

/-- The line with the note that conflicts do not count. -/
def conflictsIgnored : String :=
  "Toolchain RPMs conflicts are ignored since ALLOW_TOOLCHAIN_REBUILDS=y"

/-- The lines of one list of conflicts. -/
def conflictSection (level : Int) (title : String) (names : List String) : List Line :=
  if names.isEmpty then [] else ⟨level, title⟩ :: names.map (item level)

/-- The section about conflicts with the toolchain. -/
def conflictLines (options : Options) : List Line :=
  if options.binaryConflicts.isEmpty && options.sourceConflicts.isEmpty then []
  else
    let level := if options.allowRebuilds then Log.info else Log.error
    (if options.allowRebuilds then [news conflictsIgnored] else []) ++
    [⟨level, "Number of toolchain RPM conflicts: " ++
        Text.naturalText options.binaryConflicts.length⟩,
      ⟨level, "Number of toolchain SRPM conflicts: " ++
        Text.naturalText options.sourceConflicts.length⟩] ++
    conflictSection level "RPM conflicts with toolchain: " options.binaryConflicts ++
    conflictSection level "SRPM conflicts with toolchain: " options.sourceConflicts

/-- The text of a failed unit. -/
def failureText (node : Node) (failure : Failure) : String :=
  node.fileName ++ " , error: " ++ failure.error.messageText ++
    ", for details see: " ++ failure.logFile.messageText

/-- The item of a unit. -/
def memberLine (c : Classification) (outcome : Outcome) (node : Node) :
    Except Classification.Trouble Line :=
  match outcome with
  | .failed =>
    match c.failures.find? node.buildUnit with
    | none => .error (.lack node.buildUnit.display)
    | some failure => .ok (item Log.info (failureText node failure))
  | _ => .ok (item Log.info node.fileName)

/-- The section of an outcome; an outcome without units has none. -/
def categoryLines (c : Classification) (outcome : Outcome) :
    Except Classification.Trouble (List Line) := do
  let nodes ← c.members outcome
  if nodes.isEmpty then return []
  let items ← nodes.mapM (memberLine c outcome)
  return news (header outcome) :: items

/-- The lines with the counts. -/
def countLines (c : Classification) : List Line :=
  (c.counts.map fun (outcome, n) => news (countLabel outcome ++ Text.naturalText n)) ++
    [news (unresolvedLabel ++ Text.naturalText c.unresolved.length)]

/-- The list of unresolved dependencies. -/
def unresolvedLines (c : Classification) : List Line :=
  if c.unresolved.isEmpty then []
  else news unresolvedHeader :: c.unresolved.map (item Log.info)

/-- A summary with its sections about outcomes. -/
def assemble (c : Classification) (options : Options) (sections : List (List Line)) : List Line :=
  banner.map news ++ countLines c ++ conflictLines options ++ sections.flatten ++ unresolvedLines c

/-- The summary of a classification. -/
def lines (c : Classification) (options : Options) : Except Classification.Trouble (List Line) :=
  (Outcome.all.mapM (categoryLines c)).map (assemble c options)

/-- What logging a summary lets out: every line at its level. -/
def records (logger : String) (lines : List Line) : List Log.Record :=
  lines.flatMap fun line => Log.record logger line.level line.text

end PackageBuild.Summary
