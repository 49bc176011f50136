import PackageBuild.Summary.Line
import PackageBuild.Summary.Row

/-!
# The contents of reports

What a report shows, as readings of the progress: the survey of the build units, the lines of the
summary and the blockers with the rows of the table.

Main results:

- `run_surveyWithLines`: the lines of one progress are those of its survey and its conflicts.
-/

namespace PackageBuild.Report

open Progress (Reading)

/-- The options of the lines, with the conflicts as they are now. -/
def readOptions (allowRebuilds : Bool) : Reading Summary.Options := do
  let binary ← Reading.getBinaryConflicts
  let source ← Reading.getSourceConflicts
  return ⟨binary.map Value.messageText, source.map Value.messageText, allowRebuilds⟩

/-- A survey, and the lines of its summary. -/
def surveyWithLines (g : Graph) (allowRebuilds : Bool) :
    Reading (Survey × Except Classification.Trouble (List Summary.Line)) := do
  let survey ← Survey.read g
  let options ← readOptions allowRebuilds
  return (survey, Summary.lines survey.classification options)

/-- The options of the lines for one progress. -/
def optionsOf (p : Progress) (allowRebuilds : Bool) : Summary.Options :=
  ⟨p.binaryConflicts.map Value.messageText, p.sourceConflicts.map Value.messageText, allowRebuilds⟩

/-- The lines of one progress are those of its survey and its conflicts. -/
theorem run_surveyWithLines (g : Graph) (allowRebuilds : Bool) (p : Progress) :
    (surveyWithLines g allowRebuilds).run p =
      (Survey.of g p,
        Summary.lines (Survey.of g p).classification (optionsOf p allowRebuilds)) := by
  simp [surveyWithLines, readOptions, Survey.of, optionsOf]

end PackageBuild.Report
