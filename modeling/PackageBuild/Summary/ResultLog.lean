import PackageBuild.Log
import PackageBuild.Package.Result
import PackageBuild.Value.Items

/-!
# Logging results

Every result of a worker is logged as one record, at a level that fits it.
-/

namespace PackageBuild.Summary.ResultLog

/-- The logger of results. -/
def logger : String := "build_report.results"

/-- Files in brackets, as they are shown among others. -/
def filesText (files : List Value) : String := (Value.list files).display

/-- The files that a result gives, if it gives a collection of them. -/
def filesOf (r : Result) : List Value := (r.builtFiles.items.toOption).getD []

/-- The level and the text that fit a result. -/
def message (r : Result) : Int × String :=
  match r.error? with
  | some error =>
    (Log.error, "Failed to build " ++ r.node.fileName ++ ", error: " ++ error.messageText ++
      ", for details see: " ++ r.logFile.messageText)
  | none =>
    if !r.node.isBuild then (Log.debug, "Processed node " ++ r.node.friendlyName)
    else if r.skipped then
      (Log.warning, "Skipped build for '" ++ r.node.fileName ++
        "' per user request. RPMs expected to be present: " ++ filesText (filesOf r))
    else if r.usedCache then
      (Log.info, "Prebuilt: " ++ r.node.fileName ++ " -> " ++ filesText (filesOf r))
    else (Log.info, "Built: " ++ r.node.fileName ++ " -> " ++ filesText (filesOf r))

/-- What logging a result lets out. -/
def record (logger : String) (r : Result) : List Log.Record :=
  Log.record logger (message r).1 (message r).2

/-- What is wrong with a result that cannot be logged: its source archive cannot be named, its files
are no collection, or the package of a processed node has no text. -/
def fault? (r : Result) : Option Value.Fault :=
  (r.node.pathFault?.or (match r.builtFiles.items with
    | .ok _ => none
    | .error fault => some fault)).or
    (if r.error?.isNone && !r.node.isBuild then r.node.packageFault? else none)

/-- What logging a result of any parts lets out, unless it is refused. -/
def records (logger : String) (r : Result) : Except Value.Fault (List Log.Record) :=
  match fault? r with
  | some fault => .error fault
  | none => .ok (record logger r)

/-- A result without a fault is logged. -/
theorem records_of_fault?_eq_none {r : Result} (h : fault? r = none) (logger : String) :
    records logger r = .ok (record logger r) := by
  simp [records, h]

/-- No result is logged below the threshold. -/
theorem threshold_le_message (r : Result) : Log.threshold ≤ (message r).1 := by
  have error : Log.threshold ≤ Log.error := by decide
  have debug : Log.threshold ≤ Log.debug := by decide
  have warning : Log.threshold ≤ Log.warning := by decide
  have info : Log.threshold ≤ Log.info := by decide
  unfold message
  split
  · exact error
  · split
    · exact debug
    · split
      · exact warning
      · split <;> exact info

end PackageBuild.Summary.ResultLog
