import PackageBuild.Proofs.Classification.Units
import PackageBuild.Proofs.Telemetry.Activity
import PackageBuild.Report.Site

/-!
# Surveys at a site

A report surveys the units of a site as an activity, which logs what the survey leaves out and stops
when the graph has a fault.

Main results:

- Theorem `outcome_readSurvey`: with nodes of their shape it ends well and only logs.
-/

namespace PackageBuild.Report

open Telemetry

variable {ν α : Type}

/-- A check stops with the fault of the graph and does nothing else. -/
theorem outcome_check (fault? : Graph → Option Value.Fault) (t : Trace) (s : Site ν) :
    (check fault?).outcome t s =
      (match fault? s.graph with
        | some fault => .error (.fault fault)
        | none => .ok (), t, s) := by
  rw [check, Activity.outcome_bind, Activity.outcome_state]
  cases h : fault? s.graph <;> simp [h]

/-- Reading the progress gives what the reading yields and changes nothing. -/
@[simp] theorem outcome_readProgress (reading : Graph → Progress.Reading α) (t : Trace)
    (s : Site ν) :
    (readProgress reading).outcome t s = (.ok ((reading s.graph).run s.progress), t, s) := rfl

/-- With nodes of their shape the survey is had whatever the progress is; all that happens is that
its records are logged. -/
theorem outcome_readSurvey (reading : Graph → Progress.Reading α) (survey : α → Survey)
    (t : Trace) {s : Site ν} (hs : s.graph.Typed) :
    (readSurvey reading survey).outcome t s =
      (.ok ((reading s.graph).run s.progress),
        t.emitAll ((survey ((reading s.graph).run s.progress)).records.map .log), s) := by
  have hunit : s.graph.unitFault? = none :=
    Graph.unitFault?_eq_none fun n hn => (hs n hn).unitFault?_eq_none
  have hpackage : s.graph.packageFault? = none :=
    Graph.packageFault?_eq_none fun n hn => (hs n hn).packageFault?_eq_none
  simp [readSurvey, Activity.outcome_bind, Activity.outcome_map, outcome_check, hunit, hpackage,
    Except.map]

end PackageBuild.Report
