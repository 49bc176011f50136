import PackageBuild.Report.Site
import PackageBuild.Value.Plain

/-!
# Reports

Three reports can be asked for: the lines alone, which are logged; the table alone, which is
written to a file; and both from one look at the progress, which also gives back what they show.
-/

namespace PackageBuild.Report

open Telemetry

variable {ν : Type}

/-- The stage of all reports. -/
def stageName : Value := .text "summary"

/-- Log the summary of the build and give its lines. -/
def print (waiting : Work ν Unit) (allowRebuilds : Bool) (logger : String) :
    Work ν (List Summary.Line) :=
  stage (.text "build_summary.print") reportingScope stageName .null fun _ =>
    readLocked waiting do
      let (_, lines?) ← readSurvey (fun g => surveyWithLines g allowRebuilds) Prod.fst
      let lines ← ofTrouble lines?
      Activity.logAll (Summary.records logger lines)
      return lines

/-- Write the table of the build to a destination; whether that was done completely. -/
def record (waiting : Work ν Unit) (destination : Summary.Destination) : Work ν Bool :=
  stage (.text "build_summary.record") reportingScope stageName
    (.map [(.text "path", .text destination.shown)]) fun _ =>
    readLocked waiting do
      let survey ← readSurvey Survey.read id
      let blockers ← resolveBlockers survey.classification
      let rows ← ofTrouble (Summary.rows survey.classification blockers)
      writeTable rows (← Activity.ofFault destination.toPath)

/-- The counts of a classification under the outcomes. -/
def outcomeCounts (c : Classification) : List (Value × Value) :=
  c.counts.map fun (outcome, n) => (.member (.outcome outcome), .int n)

/-- Put on a span what the report is about. -/
def recordContents (span : Nat) (c : Classification) (written : Bool) : Work ν Unit := do
  let counts ← Activity.ofFault (Value.plain true (.map (outcomeCounts c)))
  setAttributes (some span) (.map
    [(.text "build_units", .int c.total), (.text "csv_written", .bool written),
      (.text "outcome_counts", counts)])

/-- The configuration of a report: the given one, or that of the environment. -/
def resolveConfiguration (given? : Option Configuration) : Work ν Configuration :=
  match given? with
  | some configuration => pure configuration
  | none => do
    let site ← Activity.state
    let (result, records) := Configuration.ofEnvironment site.environment
    Activity.logAll records
    match result with
    | .ok configuration => return configuration
    | .error _ => throw .homeUnknown

end PackageBuild.Report

namespace PackageBuild

/-- Everything that one look at the progress shows. -/
structure Report where
  classification : Classification
  blockers : Blocking.Blockers
  lines : List Summary.Line
  rows : List Summary.Row
  tablePath? : Option String := none
  tableWritten : Bool := false

namespace Report

open Telemetry

variable {ν : Type}

/-- Write the table if the configuration names a path for it. -/
def writeConfigured (configuration : Configuration) (rows : List Summary.Row) : Work ν Bool :=
  match configuration.tablePath? with
  | none => pure false
  | some path => writeTable rows path

/-- The work of a report under the lock. -/
def compose (configuration : Configuration) (logger : String) (span : Nat) : Work ν Report := do
  let (survey, lines?) ←
    readSurvey (fun g => surveyWithLines g configuration.allowRebuilds) Prod.fst
  let c := survey.classification
  let blockers ← resolveBlockers c
  let rows ← ofTrouble (Summary.rows c blockers)
  let written ← writeConfigured configuration rows
  let lines ← ofTrouble lines?
  Activity.logAll (Summary.records logger lines)
  recordContents span c written
  return ⟨c, blockers, lines, rows, configuration.tablePath?.map Path.text, written⟩

/-- Log the summary of the build, write its table if a path is configured, and give both. -/
def make (waiting : Work ν Unit) (given? : Option Configuration) (logger : String) :
    Work ν Report := do
  let configuration ← resolveConfiguration given?
  stage (.text "build_summary.report") reportingScope stageName .null fun span =>
    readLocked waiting (compose configuration logger span)

end Report

end PackageBuild
