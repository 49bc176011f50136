import PackageBuild.Report.Site

/-!
# What reports show

A report is asked for in one of three ways.  It reads the progress bit by bit, and from what it read
and from the graph it makes all that it shows.

Main results:

- `run_read_print`, `run_read_record` and `run_read_report`: what is shown of one progress.
-/

namespace PackageBuild.Report

open Progress (Reading)

/-- A way to ask for a report. -/
inductive Request where
  /-- The lines alone. -/
  | print (allowRebuilds : Bool)
  /-- The table alone. -/
  | record
  /-- The lines and the table from one look at the progress. -/
  | report (allowRebuilds : Bool)
  deriving DecidableEq, Repr

/-- What a report shows; what is not asked for is empty. -/
structure Shown where
  classification : Classification
  blockers : Blocking.Blockers := .empty
  rows : List Summary.Row := []
  lines : List Summary.Line := []

/-- The classification of a survey, or the fault of the graph for which there is none. -/
def surveyed (g : Graph) (survey : Survey) : Except Condition Classification :=
  match g.unitFault?, g.packageFault? with
  | none, none => .ok survey.classification
  | some fault, _ | none, some fault => .error (.fault fault)

namespace Shown

/-- The lines of a survey. -/
def ofLines (g : Graph) (survey : Survey)
    (lines? : Except Classification.Trouble (List Summary.Line)) : Except Condition Shown := do
  let c ← surveyed g survey
  let lines ← lines?.mapError Condition.ofTrouble
  return { classification := c, lines := lines }

/-- The blockers and the rows of a survey. -/
def ofTable (g : Graph) (survey : Survey) : Except Condition Shown := do
  let c ← surveyed g survey
  let blockers ← (Blocking.resolve g c).2.mapError Condition.ofBlocking
  let rows ← (Summary.rows c blockers).mapError Condition.ofTrouble
  return { classification := c, blockers := blockers, rows := rows }

/-- The blockers, the rows and the lines of a survey. -/
def ofBoth (g : Graph) (survey : Survey)
    (lines? : Except Classification.Trouble (List Summary.Line)) : Except Condition Shown := do
  let shown ← ofTable g survey
  let lines ← lines?.mapError Condition.ofTrouble
  return { shown with lines := lines }

end Shown

namespace Request

/-- Read the progress for a report and make what it shows. -/
def read (g : Graph) : Request → Reading (Except Condition Shown)
  | print allowRebuilds => do
    let (survey, lines?) ← surveyWithLines g allowRebuilds
    return Shown.ofLines g survey lines?
  | record => do
    let survey ← Survey.read g
    return Shown.ofTable g survey
  | report allowRebuilds => do
    let (survey, lines?) ← surveyWithLines g allowRebuilds
    return Shown.ofBoth g survey lines?

@[simp] theorem run_read_print (g : Graph) (allowRebuilds : Bool) (p : Progress) :
    ((print allowRebuilds).read g).run p =
      Shown.ofLines g (Survey.of g p)
        (Summary.lines (Survey.of g p).classification (optionsOf p allowRebuilds)) := by
  simp [read, run_surveyWithLines]

@[simp] theorem run_read_record (g : Graph) (p : Progress) :
    (record.read g).run p = Shown.ofTable g (Survey.of g p) := by
  simp [read, Survey.of]

@[simp] theorem run_read_report (g : Graph) (allowRebuilds : Bool) (p : Progress) :
    ((report allowRebuilds).read g).run p =
      Shown.ofBoth g (Survey.of g p)
        (Summary.lines (Survey.of g p).classification (optionsOf p allowRebuilds)) := by
  simp [read, run_surveyWithLines]

end Request

end PackageBuild.Report
