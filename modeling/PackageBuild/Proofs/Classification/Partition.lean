import Mathlib.Algebra.GroupWithZero.Nat
import Mathlib.Data.List.Nodup
import Mathlib.Data.List.Perm.Basic
import PackageBuild.Proofs.Classification.Members
import PackageBuild.Proofs.Classification.Units

/-!
# The partition of build units

The maps of a classification are filled by different passes, and the lists of members are read off
them again.  For a surveyed graph they all fit together: every build unit has one outcome, one node
and one place among the members of its outcome.

Main results:

- Theorem `Survey.members_of`: the members of an outcome are had for every outcome.
- Theorem `Survey.perm_unitsWith`: the units of the members of an outcome are those that have it.
- Theorem `perm_flatMap_filter`: a list is divided by a function with listed values.
- Theorem `classify?_divides`: the classification divides the build units of the graph.
-/

namespace PackageBuild

/-- Lists of nodes, one for each outcome, divide the build units of a graph as a classification
says. -/
structure Classification.Divides (g : Graph) (c : Classification) (members : Outcome → List Node) :
    Prop where
  /-- Every unit has one outcome. -/
  nodup_outcomes : c.outcomes.keys.Nodup
  /-- The units with an outcome are those of the build nodes. -/
  mem_outcomes : ∀ unit, unit ∈ c.outcomes.keys ↔ ∃ n ∈ g.buildNodes, n.buildUnit = unit
  /-- The units with a node are the units with an outcome, in the same order. -/
  keys_nodes : c.nodes.keys = c.outcomes.keys
  /-- The node of a unit is its first build node. -/
  find?_nodes : ∀ unit, c.nodes.find? unit = g.representative? unit
  /-- Every unit has at most one failure. -/
  nodup_failures : c.failures.keys.Nodup
  /-- The units with a failure are the failed ones. -/
  mem_failures : ∀ unit, unit ∈ c.failures.keys ↔ c.outcomes.find? unit = some .failed
  /-- The lists are the members of the outcomes. -/
  members_eq : ∀ o, c.members o = .ok (members o)
  /-- The members of an outcome are the nodes of the units that have it. -/
  mem_members : ∀ o n, n ∈ members o ↔
    ∃ unit, c.outcomes.find? unit = some o ∧ c.nodes.find? unit = some n
  /-- All members together are the nodes of the units, each as often as it is one. -/
  perm_nodes : (Outcome.all.flatMap members).Perm c.nodes.values
  /-- No unit has two members, be it in one outcome or in two. -/
  nodup_units : ((Outcome.all.flatMap members).map Node.buildUnit).Nodup
  /-- The members of an outcome stand by file name and path. -/
  increasing : ∀ o, (members o).Pairwise Node.Precedes
  /-- The counts are the numbers of members. -/
  counts_eq : c.counts = Outcome.all.map fun o => (o, (members o).length)
  /-- The units with an outcome are listed once. -/
  nodup_unitsWith : ∀ o, (c.unitsWith o).Nodup
  /-- An outcome has as many units as members. -/
  length_unitsWith : ∀ o, (c.unitsWith o).length = (members o).length
  /-- The counts add up to the number of units. -/
  sum_counts : (c.counts.map Prod.snd).sum = c.total

/-- A list is divided by a function when the values of the function are listed once. -/
theorem perm_flatMap_filter {α β : Type} [DecidableEq β] (f : α → β) (values : List β)
    (hvalues : values.Nodup) (l : List α) (hl : ∀ a ∈ l, f a ∈ values) :
    (values.flatMap fun b => l.filter fun a => f a = b).Perm l := by
  induction values generalizing l with
  | nil =>
    have hnil : l = [] := List.eq_nil_iff_forall_not_mem.2 fun a ha => by simpa using hl a ha
    rw [hnil]
    exact .nil
  | cons b values ih =>
    obtain ⟨hb, hvalues⟩ := List.nodup_cons.1 hvalues
    have hrest : ∀ a ∈ l.filter fun a => !decide (f a = b), f a ∈ values := by
      intro a ha
      simp only [List.mem_filter, Bool.not_eq_true', decide_eq_false_iff_not] at ha
      exact (List.mem_cons.1 (hl a ha.1)).resolve_left ha.2
    -- Of the values behind `b`, none takes an element that `b` takes.
    have hsame : (values.flatMap fun b' => l.filter fun a => f a = b') =
        values.flatMap fun b' => (l.filter fun a => !decide (f a = b)).filter fun a =>
          f a = b' := by
      refine List.flatMap_congr fun b' hb' => ?_
      rw [List.filter_filter]
      refine List.filter_congr fun a _ => ?_
      by_cases h : f a = b'
      · have hne : b' ≠ b := fun h' => hb (h' ▸ hb')
        simp [h, hne]
      · simp [h]
    rw [List.flatMap_cons, hsame]
    exact ((ih hvalues _ hrest).append_left _).trans (List.filter_append_perm _ l)

namespace Survey

variable {g : Graph} {p : Progress}

/-! ## Units with an outcome -/

/-- What the survey finds with an outcome: the units with the outcome and their nodes. -/
def foundWith (g : Graph) (p : Progress) (o : Outcome) : List (Value.Key × Outcome × Node) :=
  (found g p).entries.filter fun entry => entry.2.1 = o

/-- The nodes of the units with an outcome, sorted. -/
def membersOf (g : Graph) (p : Progress) (o : Outcome) : List Node :=
  ((foundWith g p o).map fun entry => entry.2.2).mergeSort Classification.standsBefore

/-- An entry of the survey is a unit with its representative and the outcome of that node. -/
theorem of_mem_found {entry : Value.Key × Outcome × Node} (h : entry ∈ (found g p).entries) :
    g.representative? entry.1 = some entry.2.2 ∧ outcomeIn p entry.2.2 = entry.2.1 := by
  have hfind := OrderedMap.mem_entries_iff.1 h
  rw [find?_found, Option.map_eq_some_iff] at hfind
  obtain ⟨n, hn, hentry⟩ := hfind
  rw [← hentry]
  exact ⟨hn, rfl⟩

/-- What is found with an outcome is a unit with its representative, a build node of the unit. -/
theorem of_mem_foundWith {o : Outcome} {entry : Value.Key × Outcome × Node}
    (h : entry ∈ foundWith g p o) : g.representative? entry.1 = some entry.2.2 ∧
      entry.2.2 ∈ g.buildNodes ∧ entry.2.2.buildUnit = entry.1 := by
  have hnode := (of_mem_found (List.mem_filter.1 h).1).1
  exact ⟨hnode, Graph.of_representative? hnode⟩

/-- The units with an outcome are those for which it was found. -/
theorem unitsWith_of (g : Graph) (p : Progress) (o : Outcome) :
    (of g p).classification.unitsWith o = (foundWith g p o).map Prod.fst := by
  rw [Classification.unitsWith, outcomes_of, OrderedMap.mapValues, List.filter_map, List.map_map]
  rfl

/-! ## Members -/

/-- The nodes of the units with an outcome are always known. -/
theorem nodesOf_unitsWith (g : Graph) (p : Progress) (o : Outcome) :
    (of g p).classification.nodesOf ((of g p).classification.unitsWith o) =
      .ok ((foundWith g p o).map fun entry => entry.2.2) := by
  rw [Classification.nodesOf_eq_ok_iff, unitsWith_of, List.map_map, List.map_map]
  refine List.map_congr_left fun entry hentry => ?_
  rw [Function.comp_apply, find?_nodes]
  exact (of_mem_foundWith hentry).1

/-- In a graph whose nodes have their shapes every outcome has its members. -/
theorem members_of (hg : g.Typed) (p : Progress) (o : Outcome) :
    (of g p).classification.members o = .ok (membersOf g p o) := by
  have hpaths : ∀ n ∈ (foundWith g p o).map fun entry => entry.2.2, n.pathFault? = none := by
    intro n hn
    obtain ⟨entry, hentry, rfl⟩ := List.mem_map.1 hn
    obtain ⟨-, hmem, -⟩ := of_mem_foundWith hentry
    exact (hg.of_mem_buildNodes hmem).pathFault?_eq_none
  have hnodes := Classification.nodesOf_eq_ok_iff.1 (nodesOf_unitsWith g p o)
  exact Classification.members_eq_ok_iff.2 ⟨_, hnodes, hpaths, rfl⟩

/-- The members of an outcome, if they are had, are the nodes of its units, sorted. -/
theorem eq_membersOf {o : Outcome} {nodes : List Node}
    (h : (of g p).classification.members o = .ok nodes) : nodes = membersOf g p o := by
  obtain ⟨found, hfound, -, rfl⟩ := Classification.members_eq_ok_iff.1 h
  have hsame := (Classification.nodesOf_eq_ok_iff.2 hfound).symm.trans (nodesOf_unitsWith g p o)
  rw [Except.ok.inj hsame]
  rfl

/-- The members of an outcome are the nodes of the units with it. -/
theorem mem_membersOf_iff {o : Outcome} {n : Node} :
    n ∈ membersOf g p o ↔ ∃ unit, (of g p).classification.outcomes.find? unit = some o ∧
      (of g p).classification.nodes.find? unit = some n := by
  rw [membersOf, List.mem_mergeSort, List.mem_map]
  constructor
  · rintro ⟨entry, hentry, rfl⟩
    obtain ⟨hmem, ho⟩ := List.mem_filter.1 hentry
    obtain ⟨hnode, houtcome⟩ := of_mem_found hmem
    refine ⟨entry.1, ?_, by rw [find?_nodes, hnode]⟩
    rw [find?_outcomes, hnode, Option.map_some, houtcome, of_decide_eq_true ho]
  · rintro ⟨unit, houtcome, hnode⟩
    rw [find?_nodes] at hnode
    rw [find?_outcomes, hnode, Option.map_some, Option.some.injEq] at houtcome
    refine ⟨(unit, o, n), List.mem_filter.2 ⟨OrderedMap.mem_entries_iff.2 ?_, ?_⟩, rfl⟩
    · rw [find?_found, hnode, Option.map_some, houtcome]
    · exact decide_eq_true rfl

/-- A member of an outcome stands for its unit, which has the outcome. -/
theorem of_mem_membersOf {o : Outcome} {n : Node} (h : n ∈ membersOf g p o) :
    g.representative? n.buildUnit = some n ∧ (of g p).classification.outcomeOf? n = some o := by
  obtain ⟨unit, houtcome, hnode⟩ := mem_membersOf_iff.1 h
  rw [find?_nodes] at hnode
  have hunit : n.buildUnit = unit := (Graph.of_representative? hnode).2
  rw [Classification.outcomeOf?, hunit]
  exact ⟨hnode, houtcome⟩

/-- Members are nodes of the graph. -/
theorem mem_nodes_of_mem_membersOf {o : Outcome} {n : Node} (h : n ∈ membersOf g p o) :
    n ∈ g.nodes :=
  (List.mem_filter.1 (Graph.of_representative? (of_mem_membersOf h).1).1).1

/-- An outcome has as many members as units. -/
theorem length_membersOf (g : Graph) (p : Progress) (o : Outcome) :
    (membersOf g p o).length = (foundWith g p o).length := by
  rw [membersOf, List.length_mergeSort, List.length_map]

/-- The nodes of what the survey finds belong to the units under which they are found. -/
theorem map_buildUnit_found (g : Graph) (p : Progress) :
    (found g p).values.map (fun value => value.2.buildUnit) = (found g p).keys := by
  rw [OrderedMap.values, OrderedMap.keys, List.map_map]
  refine List.map_congr_left fun entry hentry => ?_
  exact (Graph.of_representative? (of_mem_found hentry).1).2

/-- The members of all outcomes are the nodes of all units. -/
theorem perm_membersOf (g : Graph) (p : Progress) :
    (Outcome.all.flatMap (membersOf g p)).Perm (of g p).classification.nodes.values := by
  have hsorted : (Outcome.all.flatMap (membersOf g p)).Perm
      (Outcome.all.flatMap fun o => (foundWith g p o).map fun entry => entry.2.2) :=
    List.Perm.flatMap_left _ fun o _ => List.mergeSort_perm _ _
  have hdivided : (Outcome.all.flatMap (foundWith g p)).Perm (found g p).entries :=
    perm_flatMap_filter (fun entry : Value.Key × Outcome × Node => entry.2.1) Outcome.all
      Outcome.nodup_all _ fun entry _ => Outcome.mem_all entry.2.1
  have hvalues : (of g p).classification.nodes.values =
      (found g p).entries.map fun entry => entry.2.2 := by
    rw [nodes_of, OrderedMap.values_mapValues, OrderedMap.values, List.map_map]
    rfl
  rw [hvalues]
  refine hsorted.trans ?_
  rw [← List.map_flatMap]
  exact hdivided.map _

/-- The units of all members are the units of the survey. -/
theorem perm_units_membersOf (g : Graph) (p : Progress) :
    ((Outcome.all.flatMap (membersOf g p)).map Node.buildUnit).Perm
      (of g p).classification.outcomes.keys := by
  have hperm := (perm_membersOf g p).map Node.buildUnit
  rw [nodes_of, OrderedMap.values_mapValues, List.map_map] at hperm
  rw [outcomes_of, OrderedMap.keys_mapValues, ← map_buildUnit_found]
  exact hperm

/-- The units of the members of an outcome are those that have it, each once. -/
theorem perm_unitsWith (g : Graph) (p : Progress) (o : Outcome) :
    ((membersOf g p o).map Node.buildUnit).Perm ((of g p).classification.unitsWith o) := by
  have hunits : ((foundWith g p o).map fun entry => entry.2.2).map Node.buildUnit =
      (foundWith g p o).map Prod.fst := by
    rw [List.map_map]
    exact List.map_congr_left fun entry hentry => (of_mem_foundWith hentry).2.2
  rw [unitsWith_of, ← hunits]
  exact (List.mergeSort_perm _ _).map Node.buildUnit

/-- The units of the members of an outcome are those with it. -/
theorem mem_units_membersOf_iff {o : Outcome} {unit : Value.Key} :
    unit ∈ (membersOf g p o).map Node.buildUnit ↔
      (of g p).classification.outcomes.find? unit = some o := by
  rw [(perm_unitsWith g p o).mem_iff, Classification.mem_unitsWith_iff]

/-- A member that failed or was never built is the first node of its unit. -/
theorem of_mem_hindered {n : Node} (h : n ∈ membersOf g p .failed ++ membersOf g p .unbuilt) :
    g.representative? n.buildUnit = some n ∧ n ∈ g.nodes := by
  rcases List.mem_append.1 h with h | h <;>
    exact ⟨(of_mem_membersOf h).1, mem_nodes_of_mem_membersOf h⟩

/-- No unit failed and was never built, and none did either twice. -/
theorem nodup_units_hindered (g : Graph) (p : Progress) :
    ((membersOf g p .failed ++ membersOf g p .unbuilt).map Node.buildUnit).Nodup := by
  have hall : ((Outcome.all.flatMap (membersOf g p)).map Node.buildUnit).Nodup :=
    (perm_units_membersOf g p).nodup_iff.2 (OrderedMap.nodup_keys _)
  refine hall.sublist (List.Sublist.map Node.buildUnit ?_)
  simp only [Outcome.all, List.flatMap_cons, List.flatMap_nil, List.append_nil]
  iterate 2 refine .trans ?_ (List.sublist_append_right _ _)
  exact List.sublist_append_right _ _

/-- The members of an outcome increase strictly. -/
theorem pairwise_membersOf (hg : g.Typed) (p : Progress) (o : Outcome) :
    (membersOf g p o).Pairwise Node.Precedes := by
  have hkeys : ((foundWith g p o).map Prod.fst).Nodup :=
    (found g p).nodup.sublist (List.filter_sublist.map Prod.fst)
  have hpaths : (foundWith g p o).map Prod.fst =
      (((foundWith g p o).map fun entry => entry.2.2).map Node.sourcePath).map .text := by
    rw [List.map_map, List.map_map]
    refine List.map_congr_left fun entry hentry => ?_
    obtain ⟨-, hmem, hunit⟩ := of_mem_foundWith hentry
    rw [← hunit, (hg.of_mem_buildNodes hmem).buildUnit_eq]
    rfl
  rw [hpaths] at hkeys
  exact Classification.pairwise_mergeSort (List.Nodup.of_map Value.Key.text hkeys)

/-! ## Counts -/

/-- The count of an outcome is the number of its members. -/
theorem count_of (g : Graph) (p : Progress) (o : Outcome) :
    (of g p).classification.count o = (membersOf g p o).length := by
  rw [Classification.count, outcomes_of, OrderedMap.values_mapValues, OrderedMap.values,
    List.map_map, List.filter_map, List.length_map, length_membersOf]
  rfl

/-- The numbers of members add up to the number of units. -/
theorem sum_length_membersOf (g : Graph) (p : Progress) :
    (Outcome.all.map fun o => (membersOf g p o).length).sum = (of g p).classification.total := by
  rw [← List.length_flatMap, (perm_membersOf g p).length_eq, OrderedMap.length_values,
    Classification.total, nodes_of, outcomes_of, OrderedMap.size_mapValues,
    OrderedMap.size_mapValues]

/-- The classification of a graph divides its build units among the outcomes. -/
theorem classify?_divides (hg : g.Typed) (p : Progress) :
    ∃ c members, g.classify? p = .ok c ∧ Classification.Divides g c members := by
  refine ⟨_, membersOf g p, hg.classify?_eq_ok p, ?_⟩
  have hcounts : (of g p).classification.counts =
      Outcome.all.map fun o => (o, (membersOf g p o).length) :=
    List.map_congr_left fun o _ => by rw [count_of]
  have hfailures (unit : Value.Key) : unit ∈ (of g p).classification.failures.keys ↔
      (of g p).classification.outcomes.find? unit = some .failed := by
    rw [OrderedMap.mem_keys_iff, find?_failures]
    constructor
    · rintro ⟨failure, hfailure⟩
      by_contra hne
      rw [if_neg hne] at hfailure
      contradiction
    · intro hfailed
      rw [if_pos hfailed]
      rw [find?_outcomes, Option.map_eq_some_iff] at hfailed
      obtain ⟨n, hn, houtcome⟩ := hfailed
      rw [← (Graph.of_representative? hn).2]
      exact exists_failure_of_outcomeIn houtcome
  exact
    { nodup_outcomes := OrderedMap.nodup_keys _
      mem_outcomes := by
        intro unit
        rw [outcomes_of, OrderedMap.keys_mapValues, OrderedMap.mem_keys_iff, ← List.mem_map,
          ← Graph.representative?_isSome_iff]
        simp [find?_found]
      keys_nodes := by
        rw [nodes_of, outcomes_of, OrderedMap.keys_mapValues, OrderedMap.keys_mapValues]
      find?_nodes := find?_nodes g p
      nodup_failures := OrderedMap.nodup_keys _
      mem_failures := hfailures
      members_eq := members_of hg p
      mem_members := fun _ _ => mem_membersOf_iff
      perm_nodes := perm_membersOf g p
      nodup_units := (perm_units_membersOf g p).nodup_iff.2 (OrderedMap.nodup_keys _)
      increasing := pairwise_membersOf hg p
      counts_eq := hcounts
      nodup_unitsWith := by
        intro o
        rw [unitsWith_of]
        exact (found g p).nodup.sublist (List.filter_sublist.map Prod.fst)
      length_unitsWith := by
        intro o
        rw [unitsWith_of, List.length_map, length_membersOf]
      sum_counts := by
        rw [hcounts, List.map_map]
        exact sum_length_membersOf g p }

/-! ## Archives of one name in two directories -/

/-- A node whose source archive lies in a directory. -/
def zlibNode (id : Int) (directory : String) : Node :=
  ⟨.int id, .build, .build,
    .record .package [.text "zlib", .text "", .text "", .text "", .text ""],
    .text (directory ++ "/zlib.src.rpm"), .text "", .text ""⟩

/-- A graph of three nodes from two archives. -/
def zlibGraph : Graph := { nodes := [zlibNode 0 "/new", zlibNode 1 "/old", zlibNode 2 "/new"] }

/-- A progress in which one archive failed twice and a node outside the graph failed as well. -/
def zlibProgress : Progress :=
  { failures := [⟨zlibNode 2 "/new", .text "first", .text ""⟩,
      ⟨zlibNode 0 "/new", .text "second", .text ""⟩, ⟨zlibNode 7 "/lost", .text "", .text ""⟩] }

theorem zlibNode_typed (id : Int) (directory : String) : (zlibNode id directory).Typed :=
  Node.typed_plain _ _ _ _ _

/-- The graph has nodes of their shape. -/
theorem zlibGraph_typed : zlibGraph.Typed := by
  intro n hn
  simp only [zlibGraph, List.mem_cons, List.not_mem_nil, or_false] at hn
  rcases hn with rfl | rfl | rfl <;> exact zlibNode_typed _ _

/-- One archive is failed, with its first failure, and the other one is not built yet. -/
theorem classify?_divides_zlib :
    ∃ c members, zlibGraph.classify? zlibProgress = .ok c ∧ c.Divides zlibGraph members ∧
      zlibNode 0 "/new" ∈ members .failed ∧ zlibNode 1 "/old" ∈ members .unbuilt ∧
      c.counts.map Prod.snd = [0, 0, 0, 1, 1] ∧
      c.failures.values.map Failure.error = [.text "first"] := by
  obtain ⟨c, members, hc, hdivides⟩ := classify?_divides zlibGraph_typed zlibProgress
  refine ⟨c, members, hc, hdivides, ?_, ?_, ?_, ?_⟩ <;> cases hc
  · exact (hdivides.mem_members _ _).2 ⟨.text "/new/zlib.src.rpm", rfl, rfl⟩
  · exact (hdivides.mem_members _ _).2 ⟨.text "/old/zlib.src.rpm", rfl, rfl⟩
  · rfl
  · rfl

end Survey

end PackageBuild
