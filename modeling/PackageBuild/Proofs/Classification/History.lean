import PackageBuild.Proofs.Classification.Units
import PackageBuild.Proofs.Progress.History

/-!
# Classification of a history

The classification of a graph after a run of updates, as a function of the run.  Two identities meet
here: cachings and marks count for the number of the node that represents a unit, and failures count
for its source archive, of whatever node of whatever kind they are recorded, in the graph or
outside.

Main results:

- Theorem `outcomeIn_run`: the outcome of a node after a run is the verdict of the run.
- Theorem `classify?_performAll`: every unit of the graph has the verdict on its first build node,
  and a failed one the first failure recorded of it.
-/

namespace PackageBuild.Survey

open Progress (Update lastCaching? everBuilt firstFailure?)

/-- What a run says of a node: the last caching decides if there is one, else a mark, else a
failure of its unit. -/
def verdict (us : List Update) (node : Node) : Outcome :=
  match lastCaching? node.key us with
  | some delta => if delta.isTrue then .prebuiltDelta else .prebuilt
  | none =>
    if everBuilt node.key us then .built
    else if (firstFailure? node.buildUnit us).isSome then .failed
    else .unbuilt

/-- The failure kept of a unit after a run from the start is the first one of the run. -/
theorem find?_failures_run (us : List Update) (unit : Value.Key) :
    ((Progress.run {} us).failures.find? fun failure => failure.node.buildUnit = unit) =
      firstFailure? unit us := by
  rw [Progress.failures_run]
  rfl

/-- The outcome of a node after a run from the start is the verdict of the run. -/
theorem outcomeIn_run (us : List Update) (node : Node) :
    outcomeIn (Progress.run {} us) node = verdict us node := by
  have hrecorded : (firstFailures (Progress.run {} us).failures).contains node.buildUnit =
      (firstFailure? node.buildUnit us).isSome := by
    rw [OrderedMap.contains, find?_firstFailures, find?_failures_run]
  have hflags := Progress.flagsOf_run {} us node.key
  unfold outcomeIn verdict
  rw [run_outcomeOf, hrecorded, Progress.isCached, Progress.isDelta, Progress.isAvailable, hflags]
  cases lastCaching? node.key us with
  | some delta => rfl
  | none => cases everBuilt node.key us <;> rfl

/-- The verdict of failure is given only when the run records a failure of the unit. -/
theorem exists_firstFailure?_of_verdict {us : List Update} {node : Node}
    (h : verdict us node = .failed) :
    ∃ failure, firstFailure? node.buildUnit us = some failure := by
  rw [← outcomeIn_run] at h
  rw [← find?_failures_run]
  exact exists_failure_of_outcomeIn h

/-- Every unit of a graph that is classified after a run has the verdict of the run on the first of
its build nodes; a failed unit has the first failure that the run records of it. -/
theorem classify?_performAll {g : Graph} (hg : g.Typed) {us : List Update}
    (hus : ∀ u ∈ us, u.Typed) {n : Node} (hn : n ∈ g.buildNodes) :
    ∃ p c r, Progress.performAll {} us = .ok p ∧ g.classify? p = .ok c ∧
      g.representative? n.buildUnit = some r ∧
      c.outcomes.find? n.buildUnit = some (verdict us r) ∧
      (verdict us r = .failed →
        ∃ failure, firstFailure? n.buildUnit us = some failure ∧
          c.failures.find? n.buildUnit = some failure) := by
  obtain ⟨r, hr⟩ := Graph.representative?_isSome_iff.2
    (List.mem_map_of_mem (f := Node.buildUnit) hn)
  have hunit : r.buildUnit = n.buildUnit := (Graph.of_representative? hr).2
  have houtcome : (of g (Progress.run {} us)).classification.outcomes.find? n.buildUnit =
      some (verdict us r) := by
    rw [find?_outcomes, hr, Option.map_some, outcomeIn_run]
  refine ⟨_, _, r, Progress.performAll_eq_run hus {}, hg.classify?_eq_ok _, hr, houtcome, ?_⟩
  intro hfailed
  obtain ⟨failure, hfailure⟩ := exists_firstFailure?_of_verdict hfailed
  rw [hunit] at hfailure
  refine ⟨failure, hfailure, ?_⟩
  rw [find?_failures, houtcome, hfailed, if_pos rfl, find?_failures_run, hfailure]

/-! ## A unit with two builds and a requirement -/

/-- A node with a source archive that others share. -/
def sharedNode (id : Int) (kind : Kind) : Node :=
  ⟨.int id, kind, .build,
    .record .package [.text "zlib", .text "", .text "", .text "", .text ""],
    .text "/srpms/zlib.src.rpm", .text "", .text ""⟩

/-- A graph of two builds from one source archive. -/
def sharedGraph : Graph := { nodes := [sharedNode 0 .build, sharedNode 1 .build] }

/-- A history in which the second build is cached, and a requirement outside the graph fails with an
empty error before the first build does. -/
def sharedHistory : List Update :=
  [.cache (sharedNode 1 .build) (.bool true),
    .result { node := sharedNode 7 .run, error? := some (.text ""), logFile := .text "first.log" },
    .fail ⟨sharedNode 0 .build, .text "broken", .text "second.log"⟩]

theorem sharedNode_typed (id : Int) (kind : Kind) : (sharedNode id kind).Typed :=
  Node.typed_plain _ _ _ _ _

/-- The graph has nodes of their shape. -/
theorem sharedGraph_typed : sharedGraph.Typed := by
  intro n hn
  simp only [sharedGraph, List.mem_cons, List.not_mem_nil, or_false] at hn
  rcases hn with rfl | rfl <;> exact sharedNode_typed _ _

/-- The unit fails, since only its first build counts, and its failure has the empty error. -/
theorem classify?_performAll_shared :
    ∃ p c, Progress.performAll {} sharedHistory = .ok p ∧ sharedGraph.classify? p = .ok c ∧
      c.outcomes.find? (.text "/srpms/zlib.src.rpm") = some .failed ∧
      c.failures.find? (.text "/srpms/zlib.src.rpm") =
        some ⟨sharedNode 7 .run, .text "", .text "first.log"⟩ := by
  have hus : ∀ u ∈ sharedHistory, u.Typed := by
    intro u hu
    simp only [sharedHistory, List.mem_cons, List.not_mem_nil, or_false] at hu
    rcases hu with rfl | rfl | rfl
    · exact ⟨sharedNode_typed _ _, .bool true⟩
    · exact Result.typed_iff.2 ⟨sharedNode_typed _ _, .present (.text ""), ⟨_, rfl⟩,
        .sequence (by simp), ⟨_, rfl⟩⟩
    · exact Failure.typed_iff.2 ⟨sharedNode_typed _ _, ⟨_, rfl⟩, ⟨_, rfl⟩⟩
  have hn : sharedNode 0 .build ∈ sharedGraph.buildNodes := by
    rw [Graph.buildNodes, List.mem_filter]
    exact ⟨List.mem_cons_self, rfl⟩
  obtain ⟨p, c, r, hp, hc, hr, houtcome, hfailure⟩ := classify?_performAll sharedGraph_typed hus hn
  have hrepresentative : r = sharedNode 0 .build := by
    cases hr
    rfl
  subst hrepresentative
  obtain ⟨failure, hfirst, hfailure⟩ := hfailure rfl
  cases hfirst
  exact ⟨p, c, hp, hc, houtcome, hfailure⟩

end PackageBuild.Survey
