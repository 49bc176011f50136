import PackageBuild.OrderedMap
import PackageBuild.Outcome
import PackageBuild.Package.Result
import PackageBuild.Text.Sorted

/-!
# Classifications

A classification gives every build unit, known by the path of its source archive, an outcome, a node
that stands for it and, if it failed, the failure to show. It may be made by hand, so that its three
maps need not fit together and its nodes may have any parts; then the members of an outcome may lack
a node, or have one whose source archive cannot be named.

Main results:

- `mem_unitsWith_iff`: the units with an outcome are those that have it.
-/

namespace PackageBuild

/-- The outcomes of all build units. -/
structure Classification where
  outcomes : OrderedMap Value.Key Outcome
  nodes : OrderedMap Value.Key Node
  failures : OrderedMap Value.Key Failure
  /-- The display texts of packages that are needed and were not found. -/
  unresolved : List String := []
  /-- The values under which outcomes were given, for units whose values are not their plain keys.
  -/
  keyValues : OrderedMap Value.Key Value := .empty

namespace Classification

/-- Why a part of a summary cannot be made. -/
inductive Trouble where
  /-- No node or no failure is known for a unit, as it is shown. -/
  | lack (shown : String)
  /-- A node has a source archive that cannot be named. -/
  | fault (fault : Value.Fault)
  deriving DecidableEq, Repr

/-- The number of build units. -/
def total (c : Classification) : Nat := c.outcomes.size

/-- The outcome of the unit that a node belongs to. -/
def outcomeOf? (c : Classification) (node : Node) : Option Outcome :=
  c.outcomes.find? node.buildUnit

/-- The units with an outcome, in the order of the map. -/
def unitsWith (c : Classification) (outcome : Outcome) : List Value.Key :=
  (c.outcomes.entries.filter fun entry => entry.2 = outcome).map Prod.fst

/-- The failed units. -/
def failedUnits (c : Classification) : List Value.Key := c.unitsWith .failed

/-- The units that were never built. -/
def unbuiltUnits (c : Classification) : List Value.Key := c.unitsWith .unbuilt

/-- Whether a node stands before another one: by file name, then by path. -/
def standsBefore (m n : Node) : Bool :=
  decide (m.fileName < n.fileName) ||
    (m.fileName == n.fileName && Text.atMost m.sourcePath n.sourcePath)

/-- A unit as it is shown. -/
def shown (c : Classification) (unit : Value.Key) : String :=
  ((c.keyValues.find? unit).map Value.display).getD unit.display

/-- The nodes of units, or the first unit without one. -/
def nodesOf (c : Classification) : List Value.Key → Except Trouble (List Node)
  | [] => .ok []
  | unit :: rest =>
    match c.nodes.find? unit with
    | none => .error (.lack (c.shown unit))
    | some node => (nodesOf c rest).map (node :: ·)

/-- Nodes ordered by file name, or what is wrong with the first one that has none. -/
def ordered (nodes : List Node) : Except Trouble (List Node) :=
  match nodes.findSome? Node.pathFault? with
  | some fault => .error (.fault fault)
  | none => .ok (nodes.mergeSort standsBefore)

/-- The nodes of the units with an outcome, ordered by file name. -/
def members (c : Classification) (outcome : Outcome) : Except Trouble (List Node) := do
  ordered (← c.nodesOf (c.unitsWith outcome))

/-- The number of units with an outcome. -/
def count (c : Classification) (outcome : Outcome) : Nat :=
  (c.outcomes.values.filter (· = outcome)).length

/-- The number of units with each outcome, in report order. -/
def counts (c : Classification) : List (Outcome × Nat) :=
  Outcome.all.map fun outcome => (outcome, c.count outcome)

/-- The units with an outcome are those that have it. -/
theorem mem_unitsWith_iff {c : Classification} {outcome : Outcome} {unit : Value.Key} :
    unit ∈ c.unitsWith outcome ↔ c.outcomes.find? unit = some outcome := by
  simp only [unitsWith, List.mem_map, List.mem_filter, decide_eq_true_eq]
  constructor
  · rintro ⟨⟨p, o⟩, ⟨hmem, rfl⟩, rfl⟩
    exact OrderedMap.mem_entries_iff.1 hmem
  · intro h
    exact ⟨(unit, outcome), ⟨OrderedMap.mem_entries_iff.2 h, rfl⟩, rfl⟩

/-- Whether two classifications are equal, their maps as finite maps. -/
def same (c d : Classification) : Bool :=
  OrderedMap.sameMap (fun x y => decide (x = y)) c.outcomes d.outcomes &&
  OrderedMap.sameMap Node.same c.nodes d.nodes &&
  OrderedMap.sameMap Failure.same c.failures d.failures &&
  c.unresolved == d.unresolved

end Classification

end PackageBuild
