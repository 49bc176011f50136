import PackageBuild.Classification.Basic
import PackageBuild.Graph.Basic
import PackageBuild.Progress.Reading

/-!
# Classifying build units

The build nodes of a graph are looked at in order; the first one with a source path stands for its
unit. The first rule that fits gives the outcome: an artifact from before, a build, a failure
recorded under the path, and else nothing. Only the failures of failed units are kept.

Main results:

- `run_outcomeOf`: the outcome of a node as a function of the progress.
-/

namespace PackageBuild

open Progress (Reading)

/-- A classification, and the number of recorded failures that it leaves out. -/
structure Survey where
  classification : Classification
  /-- The number of units with recorded failures that did not fail. -/
  ignored : Nat

namespace Survey

/-- The first failure of every unit. -/
def firstFailures (failures : List Failure) : OrderedMap Value.Key Failure :=
  failures.foldl (fun m failure => m.insertNew failure.node.buildUnit failure) .empty

/-- The outcome of a node, given the failures of units. -/
def outcomeOf (recorded : OrderedMap Value.Key Failure) (node : Node) : Reading Outcome := do
  if ← Reading.getCached node then
    if ← Reading.getDelta node then return .prebuiltDelta
    else return .prebuilt
  else if ← Reading.getAvailable node then return .built
  else if recorded.contains node.buildUnit then return .failed
  else return .unbuilt

/-- Why the outcome of a node is not to be had, if it is not: its number is no key, or its source
archive is asked for and is none. -/
def outcomeFault? (p : Progress) (node : Node) : Option Value.Fault :=
  node.idFault?.or
    (if p.isCached node || p.isAvailable node then none else node.unitFault?)

/-- The outcome of a node as far as the work has come, or why it is not to be had. -/
def outcomeNow (p : Progress) (node : Node) : Except Value.Fault Outcome :=
  match outcomeFault? p node with
  | some fault => .error fault
  | none => .ok ((outcomeOf (firstFailures p.failures) node).run p)

/-- The units of nodes with their outcomes and their first nodes, behind the units before. -/
def units (recorded : OrderedMap Value.Key Failure)
    (before : OrderedMap Value.Key (Outcome × Node)) :
    List Node → Reading (OrderedMap Value.Key (Outcome × Node))
  | [] => return before
  | node :: rest => do
    if before.contains node.buildUnit then units recorded before rest
    else
      let outcome ← outcomeOf recorded node
      units recorded (before.insert node.buildUnit (outcome, node)) rest

/-- The display texts of the packages that a graph needs at run time and lacks. -/
def unresolved (g : Graph) : List String :=
  Text.distinctTexts ((g.runNodes.filter Node.isUnresolved).map fun node =>
    node.package.messageText)

/-- The survey of the units of a graph. -/
def ofUnits (g : Graph) (recorded : OrderedMap Value.Key Failure)
    (found : OrderedMap Value.Key (Outcome × Node)) : Survey :=
  let outcomes := found.mapValues Prod.fst
  let failures := recorded.filter fun unit _ => outcomes.find? unit = some .failed
  { classification :=
      { outcomes, nodes := found.mapValues Prod.snd, failures, unresolved := unresolved g }
    ignored := recorded.size - failures.size }

/-- Classify every build unit of a graph. -/
def read (g : Graph) : Reading Survey := do
  let recorded := firstFailures (← Reading.getFailures)
  let found ← units recorded .empty g.buildNodes
  return ofUnits g recorded found

/-- The survey of one progress. -/
def of (g : Graph) (p : Progress) : Survey := (read g).run p

/-- The logger of surveys. -/
def logger : String := "build_report.classify"

/-- What a survey logs: how many recorded failures it leaves out, if any. -/
def records (s : Survey) : List Log.Record :=
  if s.ignored = 0 then []
  else Log.record logger Log.debug
    ("Ignoring " ++ Text.naturalText s.ignored ++
      " failure records for units that later succeeded")

/-- The outcome of a node as a function of the progress: the first rule that fits. -/
theorem run_outcomeOf (p : Progress) (recorded : OrderedMap Value.Key Failure) (node : Node) :
    (outcomeOf recorded node).run p =
      if p.isCached node then if p.isDelta node then .prebuiltDelta else .prebuilt
      else if p.isAvailable node then .built
      else if recorded.contains node.buildUnit then .failed
      else .unbuilt := by
  cases hc : p.isCached node <;> cases hd : p.isDelta node <;> cases ha : p.isAvailable node <;>
    cases hr : recorded.contains node.buildUnit <;> simp [outcomeOf, hc, hd, ha, hr]

end Survey

end PackageBuild
