import Mathlib.Data.List.Perm.Basic
import PackageBuild.Proofs.Attempt
import PackageBuild.Proofs.Classification.Order
import PackageBuild.Proofs.OrderedMap

/-!
# When members are had

The members of an outcome are looked up unit by unit and then sorted.  A classification may be made
by hand, so that a unit has no node, or a node that cannot be sorted; this module says when that is
so, and what the members are when it is not.

Main results:

- Theorem `nodesOf_eq_ok_iff`: the nodes of units are had when each unit has one.
- Theorem `members_eq_ok_iff`: the members are the nodes of the units with the outcome, sorted.
- Theorem `mem_members_iff`: which nodes are members.
- Theorem `exists_members_iff`: when the members are had.
- Theorem `exists_of_members_eq_error`: why they are not.
-/

namespace PackageBuild.Classification

variable {c : Classification} {o : Outcome} {units : List Value.Key} {nodes : List Node}

/-! ## The nodes of units -/

/-- The nodes of units are had when each unit has one, and they stand in the order of the units. -/
theorem nodesOf_eq_ok_iff : c.nodesOf units = .ok nodes ↔
    units.map c.nodes.find? = nodes.map some := by
  induction units generalizing nodes with
  | nil => cases nodes <;> simp [nodesOf]
  | cons unit rest ih =>
    cases hnode : c.nodes.find? unit with
    | none => cases nodes <;> simp [nodesOf, hnode]
    | some node =>
      have hcons : c.nodesOf (unit :: rest) = (c.nodesOf rest).map (node :: ·) := by
        rw [nodesOf, hnode]
      rw [hcons, Attempt.map_eq_ok_iff, List.map_cons, hnode]
      constructor
      · rintro ⟨others, hothers, rfl⟩
        rw [ih.1 hothers, List.map_cons]
      · intro hall
        cases nodes with
        | nil => simp at hall
        | cons first others =>
          obtain ⟨hfirst, hothers⟩ := List.cons.inj hall
          exact ⟨others, ih.2 hothers, by rw [Option.some.inj hfirst]⟩

/-- The nodes of units are nodes of the classification. -/
theorem mem_values_of_mem_nodesOf (h : c.nodesOf units = .ok nodes) {n : Node} (hn : n ∈ nodes) :
    n ∈ c.nodes.values := by
  have hnode : some n ∈ units.map c.nodes.find? := by
    rw [nodesOf_eq_ok_iff.1 h]
    exact List.mem_map_of_mem hn
  obtain ⟨unit, -, hunit⟩ := List.mem_map.1 hnode
  exact OrderedMap.mem_values_of_find? hunit

/-- Units in another order have the same nodes in another order. -/
theorem perm_of_nodesOf {others : List Value.Key} {nodes' : List Node} (hperm : units.Perm others)
    (h : c.nodesOf units = .ok nodes) (h' : c.nodesOf others = .ok nodes') : nodes.Perm nodes' := by
  have hfound : (nodes.map some).Perm (nodes'.map some) := by
    rw [← nodesOf_eq_ok_iff.1 h, ← nodesOf_eq_ok_iff.1 h']
    exact hperm.map c.nodes.find?
  exact (List.map_perm_map_iff (fun _ _ => Option.some.inj)).1 hfound

/-- Where every node belongs to the unit it is found for, the units are those of its nodes. -/
theorem map_buildUnit_of_nodesOf
    (hunits : ∀ unit n, c.nodes.find? unit = some n → n.buildUnit = unit)
    (h : c.nodesOf units = .ok nodes) : nodes.map Node.buildUnit = units := by
  rw [nodesOf_eq_ok_iff] at h
  induction units generalizing nodes with
  | nil =>
    rw [List.map_eq_nil_iff.1 h.symm]
    rfl
  | cons unit rest ih =>
    cases nodes with
    | nil => contradiction
    | cons n others =>
      obtain ⟨hnode, hothers⟩ := List.cons.inj h
      rw [List.map_cons, hunits unit n hnode, ih hothers]

/-- Where no nodes are had, a unit is shown that has none. -/
theorem exists_of_nodesOf_eq_error {trouble : Trouble} (h : c.nodesOf units = .error trouble) :
    ∃ unit ∈ units, unit ∉ c.nodes.keys ∧ trouble = .lack (c.shown unit) := by
  induction units with
  | nil => contradiction
  | cons unit rest ih =>
    cases hnode : c.nodes.find? unit with
    | none =>
      rw [nodesOf, hnode] at h
      exact ⟨unit, List.mem_cons_self, OrderedMap.notMem_keys_iff.2 hnode,
        (Except.error.inj h).symm⟩
    | some node =>
      have hrest : c.nodesOf rest = .error trouble := by
        rw [nodesOf, hnode] at h
        exact Attempt.map_eq_error_iff.1 h
      obtain ⟨other, hother, hlacks, htrouble⟩ := ih hrest
      exact ⟨other, List.mem_cons_of_mem _ hother, hlacks, htrouble⟩

/-- The nodes of units are had when the classification knows them all. -/
theorem exists_nodesOf_iff :
    (∃ nodes, c.nodesOf units = .ok nodes) ↔ ∀ unit ∈ units, unit ∈ c.nodes.keys := by
  constructor
  · rintro ⟨nodes, hnodes⟩ unit hunit
    have hmem : c.nodes.find? unit ∈ nodes.map some := by
      rw [← nodesOf_eq_ok_iff.1 hnodes]
      exact List.mem_map_of_mem hunit
    obtain ⟨node, -, hnode⟩ := List.mem_map.1 hmem
    exact OrderedMap.mem_keys_iff.2 ⟨node, hnode.symm⟩
  · intro hknown
    cases hnodes : c.nodesOf units with
    | ok nodes => exact ⟨nodes, rfl⟩
    | error trouble =>
      obtain ⟨unit, hunit, hlacks, -⟩ := exists_of_nodesOf_eq_error hnodes
      exact absurd (hknown unit hunit) hlacks

/-! ## Sorting -/

/-- Nodes are sorted when the source archives of all of them can be named. -/
theorem ordered_eq_ok_iff {found : List Node} : ordered found = .ok nodes ↔
    (∀ n ∈ found, n.pathFault? = none) ∧ nodes = found.mergeSort standsBefore := by
  rw [← List.findSome?_eq_none_iff]
  unfold ordered
  cases found.findSome? Node.pathFault? with
  | none => simp [eq_comm]
  | some fault => simp

/-! ## Members -/

/-- No unit is listed twice with an outcome. -/
theorem nodup_unitsWith (c : Classification) (o : Outcome) : (c.unitsWith o).Nodup :=
  c.outcomes.nodup.sublist (List.filter_sublist.map Prod.fst)

/-- The members of an outcome are the nodes of its units, sorted. -/
theorem members_eq_ok_iff : c.members o = .ok nodes ↔
    ∃ found : List Node, (c.unitsWith o).map c.nodes.find? = found.map some ∧
      (∀ n ∈ found, n.pathFault? = none) ∧ nodes = found.mergeSort standsBefore := by
  simp only [members, Attempt.bind_eq_ok_iff, nodesOf_eq_ok_iff, ordered_eq_ok_iff]

/-- The members of an outcome are the nodes of the units that have it. -/
theorem mem_members_iff (h : c.members o = .ok nodes) {n : Node} :
    n ∈ nodes ↔ ∃ unit, c.outcomes.find? unit = some o ∧ c.nodes.find? unit = some n := by
  obtain ⟨found, hfound, -, rfl⟩ := members_eq_ok_iff.1 h
  have hmem : n ∈ found ↔ some n ∈ (c.unitsWith o).map c.nodes.find? := by
    rw [hfound]
    simp
  rw [List.mem_mergeSort, hmem, List.mem_map]
  simp only [mem_unitsWith_iff]

/-- Where all nodes can be named, members are not had only for a unit that has no node. -/
theorem exists_of_members_eq_error (hpaths : ∀ n ∈ c.nodes.values, n.pathFault? = none)
    {trouble : Trouble} (h : c.members o = .error trouble) :
    ∃ unit, c.outcomes.find? unit = some o ∧ unit ∉ c.nodes.keys ∧
      trouble = .lack (c.shown unit) := by
  rw [members, Attempt.bind_eq_error_iff] at h
  rcases h with hnodes | ⟨found, hfound, hordered⟩
  · obtain ⟨unit, hunit, hlacks, htrouble⟩ := exists_of_nodesOf_eq_error hnodes
    exact ⟨unit, mem_unitsWith_iff.1 hunit, hlacks, htrouble⟩
  · have hnamed : ∀ n ∈ found, n.pathFault? = none := by
      intro n hn
      exact hpaths n (mem_values_of_mem_nodesOf hfound hn)
    rw [ordered_eq_ok_iff.2 ⟨hnamed, rfl⟩] at hordered
    contradiction

/-- Where all nodes can be named, the members of an outcome are had when the classification knows a
node of each unit that has it. -/
theorem exists_members_iff (hpaths : ∀ n ∈ c.nodes.values, n.pathFault? = none) :
    (∃ nodes, c.members o = .ok nodes) ↔
      ∀ unit, c.outcomes.find? unit = some o → unit ∈ c.nodes.keys := by
  have hunits : (∀ unit, c.outcomes.find? unit = some o → unit ∈ c.nodes.keys) ↔
      ∃ found, c.nodesOf (c.unitsWith o) = .ok found := by
    rw [exists_nodesOf_iff]
    simp only [mem_unitsWith_iff]
  rw [hunits]
  constructor
  · rintro ⟨nodes, hnodes⟩
    obtain ⟨found, hfound, -⟩ := members_eq_ok_iff.1 hnodes
    exact ⟨found, nodesOf_eq_ok_iff.2 hfound⟩
  · rintro ⟨found, hfound⟩
    exact ⟨_, members_eq_ok_iff.2 ⟨found, nodesOf_eq_ok_iff.1 hfound,
      fun n hn => hpaths n (mem_values_of_mem_nodesOf hfound hn), rfl⟩⟩

end PackageBuild.Classification
