import PackageBuild.Classification.Check
import PackageBuild.Proofs.OrderedMap
import PackageBuild.Proofs.Record.Shape

/-!
# The units of a survey

A survey fills three maps in three passes.  This module says what each of them is as a function of
the graph and the progress: which unit has which node, which outcome and which failure.

Main results:

- Theorem `Survey.find?_firstFailures`: the failure kept of a unit is the first one recorded.
- Theorem `Survey.find?_found`: a unit has the first of its build nodes and that node's outcome.
- Theorems `Survey.find?_outcomes`, `find?_nodes` and `find?_failures`: the maps of a
  classification.
- Theorem `Graph.Typed.classify?_eq_ok`: a graph whose nodes have parts of their shapes is
  classified, whatever the progress is.
-/

namespace PackageBuild

namespace Graph

/-- The parts of all nodes have the shapes that the schema names. -/
def Typed (g : Graph) : Prop := ∀ n ∈ g.nodes, n.Typed

/-- The node that stands for a build unit: the first one added that belongs to it and is built. -/
def representative? (g : Graph) (unit : Value.Key) : Option Node :=
  g.buildNodes.find? fun n => n.buildUnit = unit

/-- The classification of a graph and a progress, or why there is none. -/
def classify? (g : Graph) (p : Progress) : Except Value.Fault Classification :=
  match g.unitFault?, g.packageFault? with
  | none, none => .ok (Survey.of g p).classification
  | some fault, _ | none, some fault => .error fault

/-- The build nodes of a graph of typed nodes are typed. -/
theorem Typed.of_mem_buildNodes {g : Graph} (hg : g.Typed) {n : Node} (hn : n ∈ g.buildNodes) :
    n.Typed :=
  hg n (List.mem_filter.1 hn).1

/-- A graph is classified when its units have keys and its packages have texts. -/
theorem classify?_eq_ok_iff {g : Graph} {p : Progress} {c : Classification} :
    g.classify? p = .ok c ↔
      g.unitFault? = none ∧ g.packageFault? = none ∧ (Survey.of g p).classification = c := by
  unfold classify?
  cases g.unitFault? <;> cases g.packageFault? <;> simp

/-- A graph whose nodes have parts of their shapes is always classified. -/
theorem Typed.classify?_eq_ok {g : Graph} (hg : g.Typed) (p : Progress) :
    g.classify? p = .ok (Survey.of g p).classification := by
  have hunit : g.unitFault? = none :=
    unitFault?_eq_none fun n hn => (hg n hn).unitFault?_eq_none
  have hpackage : g.packageFault? = none :=
    packageFault?_eq_none fun n hn => (hg n hn).packageFault?_eq_none
  exact classify?_eq_ok_iff.2 ⟨hunit, hpackage, rfl⟩

/-- Exactly the units of build nodes have a representative. -/
theorem representative?_isSome_iff {g : Graph} {unit : Value.Key} :
    (∃ n, g.representative? unit = some n) ↔ unit ∈ g.buildNodes.map Node.buildUnit := by
  rw [← Option.isSome_iff_exists, representative?, List.find?_isSome]
  simp

/-- A representative is a build node of its unit. -/
theorem of_representative? {g : Graph} {unit : Value.Key} {n : Node}
    (h : g.representative? unit = some n) : n ∈ g.buildNodes ∧ n.buildUnit = unit := by
  constructor
  · exact List.mem_of_find?_eq_some h
  · simpa using List.find?_some h

end Graph

namespace Survey

/-! ## The failures of units -/

/-- The first failure of a unit is the one that is kept. -/
theorem find?_foldl_insertNew (failures : List Failure) (m : OrderedMap Value.Key Failure)
    (unit : Value.Key) :
    (failures.foldl (fun m failure => m.insertNew failure.node.buildUnit failure) m).find? unit =
      (m.find? unit).or (failures.find? fun failure => failure.node.buildUnit = unit) := by
  induction failures generalizing m with
  | nil => simp
  | cons failure rest ih =>
    rw [List.foldl_cons, ih, OrderedMap.find?_insertNew, List.find?_cons]
    by_cases h : failure.node.buildUnit = unit
    · subst h
      cases m.find? failure.node.buildUnit <;> simp
    · simp [h, Ne.symm h]

/-- The first failure of any node of a unit is the one that counts. -/
theorem find?_firstFailures (failures : List Failure) (unit : Value.Key) :
    (firstFailures failures).find? unit =
      failures.find? fun failure => failure.node.buildUnit = unit := by
  rw [firstFailures, find?_foldl_insertNew, OrderedMap.find?_empty, Option.none_or]

/-! ## The nodes of units -/

/-- The outcome of a node as far as the work has come. -/
def outcomeIn (p : Progress) (node : Node) : Outcome :=
  (outcomeOf (firstFailures p.failures) node).run p

/-- A node fails only when a failure of its unit was recorded. -/
theorem exists_failure_of_outcomeIn {p : Progress} {node : Node}
    (h : outcomeIn p node = .failed) :
    ∃ failure, (p.failures.find? fun failure => failure.node.buildUnit = node.buildUnit) =
      some failure := by
  rw [← find?_firstFailures, ← Option.isSome_iff_exists]
  cases hrecorded : (firstFailures p.failures).contains node.buildUnit with
  | true => exact hrecorded
  | false =>
    rw [outcomeIn, run_outcomeOf, hrecorded] at h
    split at h
    · split at h <;> contradiction
    · split at h <;> contradiction

/-- The units that the survey finds, with their outcomes and their nodes. -/
def found (g : Graph) (p : Progress) : OrderedMap Value.Key (Outcome × Node) :=
  (units (firstFailures p.failures) .empty g.buildNodes).run p

/-- A survey is made of the units that were found and of the first failures. -/
theorem of_eq (g : Graph) (p : Progress) :
    of g p = ofUnits g (firstFailures p.failures) (found g p) := by
  simp [of, read, found]

/-- A unit that is known keeps its node; a new one gets its first node among those that follow. -/
theorem find?_units (p : Progress) (recorded : OrderedMap Value.Key Failure)
    (before : OrderedMap Value.Key (Outcome × Node)) (nodes : List Node) (unit : Value.Key) :
    ((units recorded before nodes).run p).find? unit =
      (before.find? unit).or ((nodes.find? fun n => n.buildUnit = unit).map fun n =>
        ((outcomeOf recorded n).run p, n)) := by
  induction nodes generalizing before with
  | nil => simp [units]
  | cons node rest ih =>
    rw [units, List.find?_cons]
    by_cases hknown : before.contains node.buildUnit = true
    · rw [if_pos hknown, ih]
      by_cases hunit : node.buildUnit = unit
      · subst hunit
        obtain ⟨value, hvalue⟩ := Option.isSome_iff_exists.1 hknown
        simp [hvalue]
      · simp [hunit]
    · rw [if_neg hknown, Progress.Reading.run_bind, ih, OrderedMap.find?_insert]
      by_cases hunit : node.buildUnit = unit
      · subst hunit
        have hnone : before.find? node.buildUnit = none := by
          simpa [OrderedMap.contains] using hknown
        simp [hnone]
      · simp [hunit, Ne.symm hunit]

/-- Every unit is found with its representative and the outcome of that node. -/
theorem find?_found (g : Graph) (p : Progress) (unit : Value.Key) :
    (found g p).find? unit =
      (g.representative? unit).map fun n => (outcomeIn p n, n) := by
  rw [found, find?_units, OrderedMap.find?_empty, Option.none_or]
  rfl

/-! ## The maps of a classification -/

/-- The outcomes of a classification are those that were found. -/
theorem outcomes_of (g : Graph) (p : Progress) :
    (of g p).classification.outcomes = (found g p).mapValues Prod.fst := by
  rw [of_eq]
  rfl

/-- The nodes of a classification are those that were found. -/
theorem nodes_of (g : Graph) (p : Progress) :
    (of g p).classification.nodes = (found g p).mapValues Prod.snd := by
  rw [of_eq]
  rfl

/-- The outcome of a unit is that of its representative. -/
theorem find?_outcomes (g : Graph) (p : Progress) (unit : Value.Key) :
    (of g p).classification.outcomes.find? unit = (g.representative? unit).map (outcomeIn p) := by
  rw [outcomes_of, OrderedMap.find?_mapValues, find?_found, Option.map_map]
  rfl

/-- The node of a unit is its representative. -/
theorem find?_nodes (g : Graph) (p : Progress) (unit : Value.Key) :
    (of g p).classification.nodes.find? unit = g.representative? unit := by
  rw [nodes_of, OrderedMap.find?_mapValues, find?_found, Option.map_map]
  exact Option.map_id'

/-- The failure of a unit is its first one, if the unit failed. -/
theorem find?_failures (g : Graph) (p : Progress) (unit : Value.Key) :
    (of g p).classification.failures.find? unit =
      if (of g p).classification.outcomes.find? unit = some .failed then
        p.failures.find? fun failure => failure.node.buildUnit = unit
      else none := by
  have hfailures : (of g p).classification.failures =
      (firstFailures p.failures).filter fun unit _ =>
        (of g p).classification.outcomes.find? unit = some .failed := by
    rw [of_eq]
    rfl
  rw [hfailures, OrderedMap.find?_filter, find?_firstFailures]
  by_cases hfailed : (of g p).classification.outcomes.find? unit = some .failed
  · simp only [hfailed, decide_true, if_true]
    cases p.failures.find? fun failure => failure.node.buildUnit = unit <;> rfl
  · simp only [hfailed, decide_false, if_false]
    cases p.failures.find? fun failure => failure.node.buildUnit = unit <;> rfl

end Survey

end PackageBuild
