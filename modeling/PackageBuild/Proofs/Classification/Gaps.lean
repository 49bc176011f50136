import PackageBuild.Proofs.Classification.Members
import PackageBuild.Proofs.Classification.Units

/-!
# Gaps in a classification

A classification that is made by hand may have gaps: a unit with an outcome may have no node, and
the node of a failed one may belong to a unit without a failure.  A survey never leaves such gaps.

Main results:

- Theorem `exists_lack_iff`: what is refused for gaps and for nothing else.
- Theorem `forall_exists_members_iff`: the members of all outcomes are had unless a node is lacking.
- Theorems `Survey.not_lacksNode` and `Survey.not_lacksFailure`: a survey leaves no gaps.
-/

namespace PackageBuild

namespace Classification

variable {c : Classification}

/-- Some unit with an outcome has no node. -/
def LacksNode (c : Classification) : Prop := ∃ unit ∈ c.outcomes.keys, unit ∉ c.nodes.keys

/-- The node of some failed unit belongs to a unit that has no failure. -/
def LacksFailure (c : Classification) : Prop :=
  ∃ unit n, c.outcomes.find? unit = some .failed ∧ c.nodes.find? unit = some n ∧
    n.buildUnit ∉ c.failures.keys

/-- What is had unless there is a gap, and else is refused for something lacking, is so refused
exactly for gaps. -/
theorem exists_lack_iff {α : Type} {x : Except Trouble α} {gap : Prop}
    (hok : (∃ a, x = .ok a) ↔ ¬ gap)
    (hlack : ∀ trouble, x = .error trouble → ∃ shown, trouble = .lack shown) :
    (∃ shown, x = .error (.lack shown)) ↔ gap := by
  constructor
  · rintro ⟨shown, hx⟩
    by_contra hgap
    obtain ⟨a, ha⟩ := hok.2 hgap
    rw [hx] at ha
    contradiction
  · intro hgap
    cases hx : x with
    | ok a => exact absurd hgap (hok.1 ⟨a, hx⟩)
    | error trouble =>
      obtain ⟨shown, rfl⟩ := hlack trouble hx
      exact ⟨shown, rfl⟩

/-- Where all nodes can be named, the members of all outcomes are had unless a node is lacking. -/
theorem forall_exists_members_iff (hpaths : ∀ n ∈ c.nodes.values, n.pathFault? = none) :
    (∀ o, ∃ nodes, c.members o = .ok nodes) ↔ ¬ c.LacksNode := by
  simp only [exists_members_iff hpaths]
  constructor
  · rintro hknown ⟨unit, hunit, hlacks⟩
    obtain ⟨o, ho⟩ := OrderedMap.mem_keys_iff.1 hunit
    exact hlacks (hknown o unit ho)
  · intro hcomplete o unit ho
    by_contra hlacks
    exact hcomplete ⟨unit, OrderedMap.mem_keys_iff.2 ⟨o, ho⟩, hlacks⟩

end Classification

namespace Survey

/-- Every unit of a survey has a node. -/
theorem not_lacksNode (g : Graph) (p : Progress) : ¬ (of g p).classification.LacksNode := by
  rintro ⟨unit, hunit, hlacks⟩
  rw [outcomes_of, OrderedMap.keys_mapValues] at hunit
  rw [nodes_of, OrderedMap.keys_mapValues] at hlacks
  exact hlacks hunit

/-- A failed unit of a survey has a failure, under the name by which its node knows it. -/
theorem exists_failure {g : Graph} {p : Progress} {unit : Value.Key} {n : Node}
    (houtcome : (of g p).classification.outcomes.find? unit = some .failed)
    (hnode : (of g p).classification.nodes.find? unit = some n) :
    ∃ failure, (of g p).classification.failures.find? n.buildUnit = some failure := by
  rw [find?_nodes] at hnode
  have hunit : n.buildUnit = unit := (Graph.of_representative? hnode).2
  rw [hunit, find?_failures, if_pos houtcome, ← hunit]
  rw [find?_outcomes, hnode, Option.map_some, Option.some.injEq] at houtcome
  exact exists_failure_of_outcomeIn houtcome

/-- Every failed unit of a survey has a failure. -/
theorem not_lacksFailure (g : Graph) (p : Progress) : ¬ (of g p).classification.LacksFailure := by
  rintro ⟨unit, n, houtcome, hnode, hlacks⟩
  exact hlacks (OrderedMap.mem_keys_iff.2 (exists_failure houtcome hnode))

end Survey

end PackageBuild
