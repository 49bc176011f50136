import PackageBuild.Classification.Check
import PackageBuild.Lock.Basic
import PackageBuild.Report.Configuration
import PackageBuild.Report.Contents
import PackageBuild.Summary.Export
import PackageBuild.Telemetry.Stage

/-!
# The site of a report

A report is made where the scheduler works: on the graph and the progress, under the lock that both
share, with files to write to. Everything that a report reads it reads while it holds the read side.

Main results:

- `readLocked`: the read side is given back however the work under it ends.
-/

namespace PackageBuild

/-- The condition that a trouble with a classification leads to. -/
def Condition.ofTrouble : Classification.Trouble → Condition
  | .lack shown => .keyMissing shown
  | .fault f => .fault f

/-- The condition that an error of naming blockers leads to. -/
def Condition.ofBlocking : Blocking.Error → Condition
  | .trouble trouble => .ofTrouble trouble
  | .graph e => .graph e

end PackageBuild

namespace PackageBuild.Report

open Telemetry

/-- What the scheduler and the reports share, and notes that others keep meanwhile. -/
structure Site (ν : Type) where
  graph : Graph := {}
  progress : Progress := {}
  lock : Lock := {}
  files : FileSystem := .fresh
  environment : Environment := .ofSettings []
  notes : ν

variable {ν α : Type}

/-- An activity at a site. -/
abbrev Work (ν α : Type) := Activity (Site ν) α

/-- Change the lock. -/
def onLock (f : Lock → Lock) : Work ν Unit := Activity.onState fun s => { s with lock := f s.lock }

/-- Give back the read side. -/
def giveBack (l : Lock) : Lock :=
  match l.releaseRead with
  | .ok released => released
  | .error _ => l

/-- Do a piece of work under the read side of the lock. Until the lock is free, others do what
`waiting` says. -/
def readLocked (waiting : Work ν Unit) (body : Work ν α) : Work ν α := do
  waiting
  onLock (·.grant .read)
  let result ← Activity.attempt body
  onLock giveBack
  Activity.endAs result

/-- Run a reading on the progress of the site. -/
def readProgress (reading : Graph → Progress.Reading α) : Work ν α := do
  let site ← Activity.state
  return (reading site.graph).run site.progress

/-- Stop if a part of a summary cannot be made, or go on. -/
def ofTrouble (result : Except Classification.Trouble α) : Work ν α :=
  match result with
  | .ok a => pure a
  | .error trouble => throw (.ofTrouble trouble)

/-- Stop if the graph has a fault. -/
def check (fault? : Graph → Option Value.Fault) : Work ν Unit := do
  let site ← Activity.state
  match fault? site.graph with
  | some fault => throw (.fault fault)
  | none => pure ()

/-- Survey the units with a reading of the progress. They must have keys; what the survey leaves out
is logged; and the unresolved packages must have texts. -/
def readSurvey (reading : Graph → Progress.Reading α) (survey : α → Survey) : Work ν α := do
  check Graph.unitFault?
  let result ← readProgress reading
  Activity.logAll (survey result).records
  check Graph.packageFault?
  return result

/-- The blockers of a classification; the failed units with blockers are warned of. -/
def resolveBlockers (c : Classification) : Work ν Blocking.Blockers := do
  let site ← Activity.state
  let (records, result) := Blocking.resolve site.graph c
  Activity.logAll records
  match result with
  | .ok blockers => return blockers
  | .error e => throw (.ofBlocking e)

/-- Write rows as a table; whether that was done completely. -/
def writeTable (rows : List Summary.Row) (path : Path) : Work ν Bool := do
  let site ← Activity.state
  match Summary.Export.write site.files rows path with
  | .error _ => throw .nullInPath
  | .ok written => do
    Activity.onState fun s => { s with files := written.files }
    Activity.logAll written.records
    return written.complete

end PackageBuild.Report
