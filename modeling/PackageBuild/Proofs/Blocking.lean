import Mathlib.Tactic.Choose
import PackageBuild.Proofs.Blocking.Tokens
import PackageBuild.Proofs.Classification.Partition

/-!
# The units that name what holds them back

The annotations are put together in two passes, over the failed and over the unbuilt members.  Both
passes together reach each of these units and no other.

Main results:

- Theorem `mem_keys_addAll`: one pass adds the units of its nodes.
- Theorem `mem_keys_resolve`: the annotated units are those of the failed and the unbuilt members.
- Theorem `resolve_eq`: what both passes over annotated members give and log.
- Theorem `exists_resolve`: in a graph that finds its own nodes the annotations are always had.
-/

namespace PackageBuild.Blocking

variable {g : Graph} {c : Classification}

/-- One pass adds the units of its nodes to those before. -/
theorem mem_keys_addAll {o : Outcome} {nodes : List Node} {before after : Blockers}
    (h : (addAll g c o before nodes).2 = .ok after) (unit : Value.Key) :
    unit ∈ after.keys ↔ unit ∈ before.keys ∨ unit ∈ nodes.map Node.buildUnit := by
  induction nodes generalizing before with
  | nil =>
    cases h
    simp
  | cons node rest ih =>
    rw [addAll] at h
    split at h
    · contradiction
    · next text htext =>
      rw [ih h, OrderedMap.mem_keys_insert_iff, List.map_cons, List.mem_cons, or_assoc,
        or_left_comm]

/-- An outcome gives entries to the units of its members. -/
theorem exists_members_of_addOutcome {o : Outcome} {before after : Blockers}
    {records : List Log.Record} (h : addOutcome g c o before = (records, .ok after)) :
    ∃ nodes, c.members o = .ok nodes ∧
      ∀ unit, unit ∈ after.keys ↔ unit ∈ before.keys ∨ unit ∈ nodes.map Node.buildUnit := by
  unfold addOutcome at h
  split at h
  · cases h
  · next nodes hnodes =>
    exact ⟨nodes, hnodes, mem_keys_addAll (congrArg Prod.snd h)⟩

/-- The annotated units are those of the failed and of the unbuilt members. -/
theorem mem_keys_resolve {blockers : Blockers} (h : (resolve g c).2 = .ok blockers) :
    ∃ failed unbuilt, c.members .failed = .ok failed ∧ c.members .unbuilt = .ok unbuilt ∧
      ∀ unit, unit ∈ blockers.keys ↔
        unit ∈ failed.map Node.buildUnit ∨ unit ∈ unbuilt.map Node.buildUnit := by
  unfold resolve at h
  split at h
  · cases h
  · next records between hfailed =>
    obtain ⟨failed, hmembers, hkeys⟩ := exists_members_of_addOutcome hfailed
    have hunbuilt : addOutcome g c .unbuilt between = (_, .ok blockers) := Prod.ext rfl h
    obtain ⟨unbuilt, hmembers', hkeys'⟩ := exists_members_of_addOutcome hunbuilt
    refine ⟨failed, unbuilt, hmembers, hmembers', fun unit => ?_⟩
    rw [hkeys', hkeys]
    simp [OrderedMap.keys, OrderedMap.empty]

/-! ## When the annotations are had -/

/-- The annotation of the unit of a node. -/
def entryOf (blockers : Blockers) (n : Node) : String := (blockers.find? n.buildUnit).getD ""

/-- A unit has the annotation that was put in for its node. -/
theorem find?_ofList_units {nodes : List Node} (hunits : (nodes.map Node.buildUnit).Nodup)
    (text : Node → String) {n : Node} (hn : n ∈ nodes) :
    (OrderedMap.ofList (nodes.map fun n => (n.buildUnit, text n))).find? n.buildUnit =
      some (text n) := by
  refine OrderedMap.find?_ofList ?_ (List.mem_map_of_mem hn)
  rwa [List.map_map]

/-- Each node of different units has its own entry. -/
theorem entryOf_ofList {nodes : List Node} (hunits : (nodes.map Node.buildUnit).Nodup)
    (text : Node → String) {n : Node} (hn : n ∈ nodes) :
    entryOf (.ofList (nodes.map fun n => (n.buildUnit, text n))) n = text n := by
  rw [entryOf, find?_ofList_units hunits text hn, Option.getD_some]

/-- One pass over annotated nodes puts their annotations behind those before, and logs what each of
them is worth. -/
theorem addAll_eq {o : Outcome} {nodes : List Node} {text : Node → String}
    (h : ∀ n ∈ nodes, annotation g c (.node n) = .ok (text n)) (before : Blockers) :
    addAll g c o before nodes = (nodes.flatMap fun n => warning o n (text n),
      .ok ((nodes.map fun n => (n.buildUnit, text n)).foldl
        (fun m entry => m.insert entry.1 entry.2) before)) := by
  induction nodes generalizing before with
  | nil => rfl
  | cons n rest ih =>
    rw [addAll, h n List.mem_cons_self]
    simp only [ih fun n hn => h n (List.mem_cons_of_mem _ hn), List.flatMap_cons, List.map_cons,
      List.foldl_cons]

/-- When the members of both outcomes are annotated, so are all of them together, the failed ones
first.  Only failed ones are warned of. -/
theorem resolve_eq {failed unbuilt : List Node} {text : Node → String}
    (hfailed : c.members .failed = .ok failed) (hunbuilt : c.members .unbuilt = .ok unbuilt)
    (htext : ∀ n ∈ failed ++ unbuilt, annotation g c (.node n) = .ok (text n)) :
    resolve g c = (failed.flatMap fun n => warning .failed n (text n),
      .ok (.ofList ((failed ++ unbuilt).map fun n => (n.buildUnit, text n)))) := by
  have hquiet : (unbuilt.flatMap fun n => warning .unbuilt n (text n)) = [] :=
    List.flatMap_eq_nil_iff.2 fun n _ => by simp [warning]
  simp only [resolve, addOutcome, hfailed, hunbuilt,
    addAll_eq fun n hn => htext n (List.mem_append_left _ hn),
    addAll_eq fun n hn => htext n (List.mem_append_right _ hn), hquiet, List.append_nil,
    OrderedMap.ofList, List.map_append, List.foldl_append]

/-- In a graph whose nodes have their shapes and find their predecessors, all failed and unbuilt
units are annotated. -/
theorem resolve_survey (hg : g.Typed) {before : Node → List Node}
    (hbefore : ∀ n ∈ g.nodes, g.predecessors (.node n) = .ok (before n)) (p : Progress) :
    (resolve g (Survey.of g p).classification) =
      ((Survey.membersOf g p .failed).flatMap fun n => warning .failed n
        (Text.joined " " ((Survey.of g p).classification.tokensOf (before n))),
      .ok (.ofList ((Survey.membersOf g p .failed ++ Survey.membersOf g p .unbuilt).map fun n =>
        (n.buildUnit,
          Text.joined " " ((Survey.of g p).classification.tokensOf (before n)))))) := by
  refine resolve_eq (Survey.members_of hg p .failed) (Survey.members_of hg p .unbuilt) ?_
  exact fun n hn => annotation_eq hg (hbefore n (Survey.of_mem_hindered hn).2)

/-- In a graph whose nodes have their shapes and find their predecessors, the annotations are always
had. -/
theorem exists_resolve (hg : g.Typed)
    (hpredecessors : ∀ n ∈ g.nodes, ∃ nodes, g.predecessors (.node n) = .ok nodes) (p : Progress) :
    ∃ blockers, (resolve g (Survey.of g p).classification).2 = .ok blockers := by
  choose! before hbefore using hpredecessors
  rw [resolve_survey hg hbefore]
  exact ⟨_, rfl⟩

end PackageBuild.Blocking
