import PackageBuild.Proofs.Build.Growth
import PackageBuild.Proofs.Classification.Units

/-!
# Kept progress

Every unit keeps its first build node when a build grows, and nothing is taken back of what is known
of that node and of the failures of the unit.  Hence a classification never knows less of a unit
than one before.

Main results:

- Theorem `Survey.keptBy_of_extends`: what is classified once is kept when a build grows.
- Theorem `Build.classify?_of_run`: a build that is classified once is classified after any run that
  adds nodes with parts of their shapes.
- Theorem `Build.run_keeps`: progress is never taken back.
-/

namespace PackageBuild

/-! ## Outcomes of nodes -/

/-- An artifact from before was found. -/
def Outcome.Cached (o : Outcome) : Prop := o = .prebuilt ∨ o = .prebuiltDelta

/-- The unit need not be built any more. -/
def Outcome.Satisfied (o : Outcome) : Prop := o = .built ∨ o.Cached

namespace Survey

variable {p q : Progress} {n : Node}

/-- A node has a cached outcome exactly when it is cached. -/
theorem cached_outcomeIn_iff : (outcomeIn p n).Cached ↔ p.isCached n = true := by
  rw [outcomeIn, run_outcomeOf, Outcome.Cached]
  cases p.isCached n <;> cases p.isDelta n <;> cases p.isAvailable n <;>
    cases (firstFailures p.failures).contains n.buildUnit <;> simp

/-- A node is satisfied exactly when it is cached or available. -/
theorem satisfied_outcomeIn_iff :
    (outcomeIn p n).Satisfied ↔ p.isCached n = true ∨ p.isAvailable n = true := by
  rw [outcomeIn, run_outcomeOf, Outcome.Satisfied, Outcome.Cached]
  cases p.isCached n <;> cases p.isDelta n <;> cases p.isAvailable n <;>
    cases (firstFailures p.failures).contains n.buildUnit <;> simp

/-- A node for whose unit a failure is recorded has failed, unless it is satisfied. -/
theorem failed_or_satisfied {f : Failure}
    (hf : (p.failures.find? fun failure => failure.node.buildUnit = n.buildUnit) = some f) :
    outcomeIn p n = .failed ∨ (outcomeIn p n).Satisfied := by
  have hrecorded : (firstFailures p.failures).contains n.buildUnit = true := by
    rw [OrderedMap.contains, find?_firstFailures, hf, Option.isSome_some]
  rw [satisfied_outcomeIn_iff, outcomeIn, run_outcomeOf, hrecorded]
  cases p.isCached n <;> cases p.isAvailable n <;> simp

/-- A satisfied node stays so. -/
theorem satisfied_of_extends (h : p.Extends q) (hn : (outcomeIn p n).Satisfied) :
    (outcomeIn q n).Satisfied := by
  rw [satisfied_outcomeIn_iff] at hn ⊢
  exact hn.imp (h.cached n.key) (h.available n.key)

/-- A cached node stays so. -/
theorem cached_of_extends (h : p.Extends q) (hn : (outcomeIn p n).Cached) :
    (outcomeIn q n).Cached := by
  rw [cached_outcomeIn_iff] at hn ⊢
  exact h.cached n.key hn

end Survey

/-! ## What a later classification keeps -/

/-- The progress of units in a classification is not taken back by a later one. -/
structure Classification.KeptBy (c later : Classification) : Prop where
  /-- A unit keeps its node. -/
  node : ∀ unit o, c.outcomes.find? unit = some o →
    ∃ n, c.nodes.find? unit = some n ∧ later.nodes.find? unit = some n
  /-- A satisfied unit stays so. -/
  satisfied : ∀ unit o, c.outcomes.find? unit = some o → o.Satisfied →
    ∃ o', later.outcomes.find? unit = some o' ∧ o'.Satisfied
  /-- A unit that was there already is never classified as built. -/
  cached : ∀ unit o, c.outcomes.find? unit = some o → o.Cached →
    ∃ o', later.outcomes.find? unit = some o' ∧ o'.Cached
  /-- A failed unit is satisfied later, or it is classified as failed with the same failure. -/
  failed : ∀ unit, c.outcomes.find? unit = some .failed →
    ∃ f, c.failures.find? unit = some f ∧
      (later.outcomes.find? unit = some .failed ∧ later.failures.find? unit = some f ∨
        ∃ o', later.outcomes.find? unit = some o' ∧ o'.Satisfied)

namespace Graph

variable {g g' : Graph}

/-- A unit keeps its representative when nodes are added. -/
theorem representative?_of_prefix (h : g.nodes <+: g'.nodes) {unit : Value.Key} {n : Node}
    (hn : g.representative? unit = some n) : g'.representative? unit = some n := by
  obtain ⟨added, hadded⟩ := h
  unfold representative? buildNodes at hn ⊢
  rw [← hadded, List.filter_append, List.find?_append, hn, Option.some_or]

/-- Nodes without faults bring no fault into a list. -/
theorem findSome?_filter_append {f : Node → Option Value.Fault} {test : Node → Bool}
    {nodes added : List Node} (hnodes : (nodes.filter test).findSome? f = none)
    (hadded : ∀ n ∈ added, f n = none) : ((nodes ++ added).filter test).findSome? f = none := by
  rw [List.filter_append, List.findSome?_append, hnodes, Option.none_or]
  exact findSome?_filter_eq_none hadded

/-- A graph that can be classified is so when nodes with parts of their shapes are added. -/
theorem classify?_of_append {p q : Progress} {c : Classification} {added : List Node}
    (hc : g.classify? p = .ok c) (hnodes : g'.nodes = g.nodes ++ added)
    (hadded : ∀ n ∈ added, n.Typed) :
    g'.classify? q = .ok (Survey.of g' q).classification := by
  obtain ⟨hunit, hpackage, -⟩ := classify?_eq_ok_iff.1 hc
  refine classify?_eq_ok_iff.2 ⟨?_, ?_, rfl⟩
  · unfold unitFault? buildNodes at hunit ⊢
    rw [hnodes]
    exact findSome?_filter_append hunit fun n hn => (hadded n hn).unitFault?_eq_none
  · unfold packageFault? runNodes at hpackage ⊢
    rw [List.filter_filter] at hpackage ⊢
    rw [hnodes]
    exact findSome?_filter_append hpackage fun n hn => (hadded n hn).packageFault?_eq_none

end Graph

/-- A unit with an outcome keeps its representative when a build grows, and the outcome is that of
the representative then and now. -/
theorem Survey.exists_representative {b b' : Build} (h : b.Extends b') {unit : Value.Key}
    {o : Outcome} (ho : (of b.graph b.progress).classification.outcomes.find? unit = some o) :
    ∃ n, b.graph.representative? unit = some n ∧ b'.graph.representative? unit = some n ∧
      outcomeIn b.progress n = o ∧
      (of b'.graph b'.progress).classification.outcomes.find? unit =
        some (outcomeIn b'.progress n) := by
  rw [find?_outcomes, Option.map_eq_some_iff] at ho
  obtain ⟨n, hn, houtcome⟩ := ho
  have hlater := Graph.representative?_of_prefix h.nodes hn
  refine ⟨n, hn, hlater, houtcome, ?_⟩
  rw [find?_outcomes, hlater, Option.map_some]

/-- What is classified once is kept when a build grows. -/
theorem Survey.keptBy_of_extends {b b' : Build} (h : b.Extends b') :
    (of b.graph b.progress).classification.KeptBy (of b'.graph b'.progress).classification where
  node := by
    intro unit o ho
    obtain ⟨n, hn, hlater, -, -⟩ := exists_representative h ho
    exact ⟨n, by rw [find?_nodes, hn], by rw [find?_nodes, hlater]⟩
  satisfied := by
    intro unit o ho hsatisfied
    obtain ⟨n, -, -, rfl, hlater⟩ := exists_representative h ho
    exact ⟨_, hlater, satisfied_of_extends h.progress hsatisfied⟩
  cached := by
    intro unit o ho hcached
    obtain ⟨n, -, -, rfl, hlater⟩ := exists_representative h ho
    exact ⟨_, hlater, cached_of_extends h.progress hcached⟩
  failed := by
    intro unit ho
    obtain ⟨n, hn, -, houtcome, hlater⟩ := exists_representative h ho
    have hunit : n.buildUnit = unit := (Graph.of_representative? hn).2
    subst hunit
    obtain ⟨f, hf⟩ := exists_failure_of_outcomeIn houtcome
    have hkept := h.progress.find?_failures hf
    refine ⟨f, by rw [find?_failures, if_pos ho, hf], ?_⟩
    rcases failed_or_satisfied hkept with hfailed | hsatisfied
    · rw [hfailed] at hlater
      exact .inl ⟨hlater, by rw [find?_failures, if_pos hlater, hkept]⟩
    · exact .inr ⟨_, hlater, hsatisfied⟩

namespace Build

/-- The classification of a build, or why there is none. -/
def classify? (b : Build) : Except Value.Fault Classification := b.graph.classify? b.progress

/-- The parts of a new node have the shapes that the schema names. -/
def Change.Typed (c : Change) : Prop := ∀ new id, c = .node new → (new.numbered id).Typed

@[simp]
theorem Change.typed_edge (u v : Graph.Reference) : Change.Typed (.edge u v) := by
  rintro new id ⟨⟩

@[simp]
theorem Change.typed_update (u : Progress.Update) : Change.Typed (.update u) := by
  rintro new id ⟨⟩

/-- A build that is classified once is classified after any run that adds nodes with parts of their
shapes. -/
theorem classify?_of_run {b : Build} {c : Classification} (hc : b.classify? = .ok c)
    {cs : List Change} (hcs : ∀ d ∈ cs, d.Typed) : ∃ later, (b.run cs).classify? = .ok later := by
  obtain ⟨added, hnodes, hadded⟩ := nodes_run b cs
  refine ⟨_, Graph.classify?_of_append hc hnodes ?_⟩
  intro n hn
  obtain ⟨new, id, hnew, rfl⟩ := hadded n hn
  exact hcs _ hnew new id rfl

/-- Progress is never taken back: whatever a classification at some point of a run holds, every
later one keeps; and there is one at every later point, unless a node was added with a part that has
not its shape. -/
theorem run_keeps (b : Build) (cs ds : List Change) {c : Classification}
    (hc : (b.run cs).classify? = .ok c) :
    (∀ later, (b.run (cs ++ ds)).classify? = .ok later → c.KeptBy later) ∧
    ((∀ d ∈ ds, d.Typed) → ∃ later, (b.run (cs ++ ds)).classify? = .ok later) := by
  rw [run_append]
  constructor
  · intro later hlater
    obtain ⟨-, -, rfl⟩ := Graph.classify?_eq_ok_iff.1 hc
    obtain ⟨-, -, rfl⟩ := Graph.classify?_eq_ok_iff.1 hlater
    exact Survey.keptBy_of_extends (extends_run _ ds)
  · exact classify?_of_run hc

/-! ## A second build of a failed archive -/

/-- A node to build from the source archive in a directory. -/
def newZlib (directory : String) : Graph.NewNode :=
  { kind := .build
    package := .record .package [.text "zlib", .text "", .text "", .text "", .text ""]
    source := .text (directory ++ "/zlib.src.rpm") }

@[simp]
theorem typed_newZlib (directory : String) : Change.Typed (.node (newZlib directory)) := by
  rintro new id ⟨⟩
  exact Node.typed_plain _ _ _ _ _

/-- One archive fails, and the other one has an artifact from before. -/
def firstChanges : List Change :=
  [.node (newZlib "/new"), .node (newZlib "/old"),
    .update (.fail ⟨(newZlib "/new").numbered 0, .text "first", .text ""⟩),
    .update (.cache ((newZlib "/old").numbered 1) (.bool false))]

/-- The failed archive gets a second build, which succeeds, and fails again; the other one is built.
-/
def laterChanges : List Change :=
  [.node (newZlib "/new"), .edge (.value (.int 2)) (.value (.int 1)),
    .update (.build ((newZlib "/new").numbered 2)),
    .update (.fail ⟨(newZlib "/new").numbered 0, .text "second", .text ""⟩),
    .update (.build ((newZlib "/old").numbered 1))]

theorem laterChanges_typed : ∀ d ∈ laterChanges, d.Typed := by
  simp [laterChanges]

/-- The failed archive still has its first failure, since only its first build counts, and
the other one is classified as there before. -/
theorem run_keeps_zlib :
    ∃ c later, (run {} firstChanges).classify? = .ok c ∧
      (run {} (firstChanges ++ laterChanges)).classify? = .ok later ∧ c.KeptBy later ∧
      c.outcomes.find? (.text "/new/zlib.src.rpm") = some .failed ∧
      later.outcomes.find? (.text "/new/zlib.src.rpm") = some .failed ∧
      (later.failures.find? (.text "/new/zlib.src.rpm")).map Failure.error =
        some (.text "first") ∧
      later.outcomes.find? (.text "/old/zlib.src.rpm") = some .prebuilt := by
  have hc : (run {} firstChanges).classify? = .ok _ := rfl
  obtain ⟨hkept, hlater⟩ := run_keeps {} firstChanges laterChanges hc
  obtain ⟨later, hlater⟩ := hlater laterChanges_typed
  refine ⟨_, later, hc, hlater, hkept later hlater, rfl, ?_, ?_, ?_⟩ <;> cases hlater <;> rfl

end Build

end PackageBuild
