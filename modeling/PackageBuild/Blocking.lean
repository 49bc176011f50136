import PackageBuild.Classification.Survey

/-!
# What holds units back

A failed or unbuilt unit names the direct predecessors of its node that are failed or unbuilt
themselves. Each gives a token of its own, also when several belong to one unit.
-/

namespace PackageBuild

namespace Blocking

/-- The end of the token of a failed predecessor. -/
def failedSuffix : String := "-FAIL"

/-- The end of the token of a predecessor that was never built. -/
def unbuiltSuffix : String := "-UNBUILT"

/-- The end of the token of a predecessor, given the failed and the unbuilt units; none for others.
-/
def suffix? (failed unbuilt : List Value.Key) (predecessor : Node) : Option String :=
  if predecessor.buildUnit ∈ failed then some failedSuffix
  else if predecessor.buildUnit ∈ unbuilt then some unbuiltSuffix
  else none

/-- The token of a predecessor: its file name with the end. -/
def token? (failed unbuilt : List Value.Key) (predecessor : Node) : Option String :=
  (suffix? failed unbuilt predecessor).map (predecessor.fileName ++ ·)

/-- What is wrong with a predecessor, if anything: it can belong to no unit, or it gives a token and
its source archive cannot be named. -/
def fault? (failed unbuilt : List Value.Key) (predecessor : Node) : Option Value.Fault :=
  predecessor.unitFault?.or
    ((suffix? failed unbuilt predecessor).bind fun _ => predecessor.pathFault?)

/-- Why the blockers of a classification cannot be named. -/
inductive Error where
  | trouble (trouble : Classification.Trouble)
  | graph (error : Graph.Error)
  deriving DecidableEq, Repr

/-- The tokens of the predecessors of a node, in the order of the graph. -/
def tokens (g : Graph) (c : Classification) (node : Graph.Reference) :
    Except Error (List String) :=
  match g.predecessors node with
  | .error e => .error (.graph e)
  | .ok predecessors =>
    match predecessors.findSome? (fault? c.failedUnits c.unbuiltUnits) with
    | some fault => .error (.trouble (.fault fault))
    | none => .ok (predecessors.filterMap (token? c.failedUnits c.unbuiltUnits))

/-- The tokens of a node, separated by single spaces. -/
def annotation (g : Graph) (c : Classification) (node : Graph.Reference) : Except Error String :=
  (tokens g c node).map (Text.joined " ")

/-- The annotations of units. -/
abbrev Blockers := OrderedMap Value.Key String

/-- The logger of blockers. -/
def logger : String := "build_report.blockers"

/-- What naming the blockers of a unit logs: a failed one was taken for a root cause. -/
def warning (outcome : Outcome) (node : Node) (text : String) : List Log.Record :=
  if outcome = .failed ∧ text ≠ "" then
    Log.record logger Log.warning
      ("Failed SRPM " ++ node.fileName ++ " has blocking predecessors: " ++ text)
  else []

/-- The annotations of nodes with an outcome put behind those before, and what this logs until it
ends. -/
def addAll (g : Graph) (c : Classification) (outcome : Outcome) (before : Blockers) :
    List Node → List Log.Record × Except Error Blockers
  | [] => ([], .ok before)
  | node :: rest =>
    match annotation g c (.node node) with
    | .error e => ([], .error e)
    | .ok text =>
      let (records, result) := addAll g c outcome (before.insert node.buildUnit text) rest
      (warning outcome node text ++ records, result)

/-- The annotations of the units with an outcome put behind those before. -/
def addOutcome (g : Graph) (c : Classification) (outcome : Outcome) (before : Blockers) :
    List Log.Record × Except Error Blockers :=
  match c.members outcome with
  | .error trouble => ([], .error (.trouble trouble))
  | .ok nodes => addAll g c outcome before nodes

/-- The annotations of all failed and then of all unbuilt units, and what naming them logs. -/
def resolve (g : Graph) (c : Classification) : List Log.Record × Except Error Blockers :=
  match addOutcome g c .failed .empty with
  | (records, .error e) => (records, .error e)
  | (records, .ok failed) =>
    let (others, result) := addOutcome g c .unbuilt failed
    (records ++ others, result)

end Blocking

end PackageBuild
