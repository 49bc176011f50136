import PackageBuild.Proofs.Classification.Units
import PackageBuild.Proofs.Progress.Rearrangement
import PackageBuild.Summary.Line
import PackageBuild.Summary.Row

/-!
# Like classifications

Two classifications are alike when they differ at most in the order of their failures.  Progresses
of which the same is read lead to like classifications, and everything that is made of a
classification depends on the failures only through the failure of each unit.  A summary depends on
less: the members, the counts, what is unresolved and the failure of each unit.

Main results:

- Theorem `Survey.alike_of`: like progresses have like classifications.
- Theorem `Blocking.resolve_congr`: like classifications have the same blockers.
- Theorems `Summary.rows_congr` and `Summary.lines_congr`: classifications that show the same have
  the same rows and lines.
-/

namespace PackageBuild

/-- Two classifications are equal but for the order of their failures. -/
structure Classification.Alike (c d : Classification) : Prop where
  outcomes_eq : c.outcomes = d.outcomes
  nodes_eq : c.nodes = d.nodes
  unresolved_eq : c.unresolved = d.unresolved
  keyValues_eq : c.keyValues = d.keyValues
  find?_failures : ∀ unit, c.failures.find? unit = d.failures.find? unit

/-- Two classifications show the same: the members and the number of units with each outcome, what
is unresolved and the failure of each unit. -/
structure Classification.ShowsAlike (c d : Classification) : Prop where
  members_eq : ∀ o, c.members o = d.members o
  count_eq : ∀ o, c.count o = d.count o
  unresolved_eq : c.unresolved = d.unresolved
  find?_failures : ∀ unit, c.failures.find? unit = d.failures.find? unit

/-! ## Surveys of like progresses -/

namespace Survey

variable {p q : Progress}

/-- The outcome of a node depends on what is read of its flags and of the failures of its unit. -/
theorem outcomeIn_congr (h : p.Alike q) (node : Node) : outcomeIn p node = outcomeIn q node := by
  have hflags := h.flagsOf_eq node.key
  have hrecorded : (firstFailures p.failures).contains node.buildUnit =
      (firstFailures q.failures).contains node.buildUnit := by
    simp only [OrderedMap.contains, find?_firstFailures, h.find?_failures]
  rw [outcomeIn, outcomeIn, run_outcomeOf, run_outcomeOf, hrecorded, Progress.isCached,
    Progress.isCached, Progress.isDelta, Progress.isDelta, Progress.isAvailable,
    Progress.isAvailable, hflags]

/-- The units that are found depend on the outcomes of the nodes. -/
theorem run_units_congr {recorded other : OrderedMap Value.Key Failure}
    (h : ∀ node, (outcomeOf recorded node).run p = (outcomeOf other node).run q)
    (before : OrderedMap Value.Key (Outcome × Node)) (nodes : List Node) :
    (units recorded before nodes).run p = (units other before nodes).run q := by
  induction nodes generalizing before with
  | nil => rfl
  | cons node rest ih =>
    unfold units
    by_cases hknown : before.contains node.buildUnit = true
    · rw [if_pos hknown, if_pos hknown, ih]
    · rw [if_neg hknown, if_neg hknown, Progress.Reading.run_bind, Progress.Reading.run_bind, h, ih]

/-- Progresses that are alike classify units alike. -/
theorem found_congr (h : p.Alike q) (g : Graph) : found g p = found g q :=
  run_units_congr (outcomeIn_congr h) _ _

/-- Like progresses have like classifications. -/
theorem alike_of (h : p.Alike q) (g : Graph) :
    (of g p).classification.Alike (of g q).classification where
  outcomes_eq := by
    rw [outcomes_of, outcomes_of, found_congr h]
  nodes_eq := by
    rw [nodes_of, nodes_of, found_congr h]
  unresolved_eq := by
    rw [of_eq, of_eq]
    rfl
  keyValues_eq := by
    rw [of_eq, of_eq]
    rfl
  find?_failures := by
    intro unit
    rw [find?_failures, find?_failures, outcomes_of, outcomes_of, found_congr h, h.find?_failures]

end Survey

/-! ## What is made of like classifications -/

namespace Classification

variable {c d : Classification}

/-- Classifications that are alike have the same units with an outcome. -/
theorem unitsWith_congr (h : c.Alike d) (o : Outcome) : c.unitsWith o = d.unitsWith o := by
  rw [unitsWith, unitsWith, h.outcomes_eq]

/-- Classifications that are alike find the same nodes for units. -/
theorem nodesOf_congr (h : c.Alike d) (units : List Value.Key) :
    c.nodesOf units = d.nodesOf units := by
  induction units with
  | nil => rfl
  | cons unit rest ih => simp only [nodesOf, shown, h.nodes_eq, h.keyValues_eq, ih]

/-- Like classifications have the same members. -/
theorem members_congr (h : c.Alike d) (o : Outcome) : c.members o = d.members o := by
  rw [members, members, unitsWith_congr h, nodesOf_congr h]

/-- Like classifications show the same. -/
theorem Alike.showsAlike (h : c.Alike d) : c.ShowsAlike d where
  members_eq := members_congr h
  count_eq := by
    intro o
    rw [count, count, h.outcomes_eq]
  unresolved_eq := h.unresolved_eq
  find?_failures := h.find?_failures

end Classification

namespace Blocking

variable {c d : Classification}

/-- Classifications that are alike give a node the same annotation. -/
theorem annotation_congr (h : c.Alike d) (g : Graph) (node : Graph.Reference) :
    annotation g c node = annotation g d node := by
  have hfailed : c.failedUnits = d.failedUnits := Classification.unitsWith_congr h .failed
  have hunbuilt : c.unbuiltUnits = d.unbuiltUnits := Classification.unitsWith_congr h .unbuilt
  unfold annotation tokens
  rw [hfailed, hunbuilt]

/-- Classifications that are alike give the same blockers to nodes. -/
theorem addAll_congr (h : c.Alike d) (g : Graph) (o : Outcome) (before : Blockers)
    (nodes : List Node) : addAll g c o before nodes = addAll g d o before nodes := by
  induction nodes generalizing before with
  | nil => rfl
  | cons node rest ih => simp only [addAll, ih, annotation_congr h]

/-- Classifications that are alike give the same blockers to an outcome. -/
theorem addOutcome_congr (h : c.Alike d) (g : Graph) (o : Outcome) (before : Blockers) :
    addOutcome g c o before = addOutcome g d o before := by
  simp only [addOutcome, Classification.members_congr h, addAll_congr h]

/-- Like classifications have the same blockers. -/
theorem resolve_congr (h : c.Alike d) (g : Graph) : resolve g c = resolve g d := by
  simp only [resolve, addOutcome_congr h]

end Blocking

namespace Summary

variable {c d : Classification}

/-- Rows depend on what is found among the blockers alone. -/
theorem rowOf_congr {blockers others : Blocking.Blockers}
    (h : ∀ unit, blockers.find? unit = others.find? unit) (o : Outcome) :
    rowOf "" blockers o = rowOf "" others o := by
  funext node
  rw [rowOf, rowOf, h]

/-- Classifications that show the same have the same rows. -/
theorem rows_congr (h : c.ShowsAlike d) {blockers others : Blocking.Blockers}
    (hblockers : ∀ unit, blockers.find? unit = others.find? unit) :
    rows c blockers = rows d others := by
  have hrows : outcomeRows "" c blockers = outcomeRows "" d others := by
    funext o
    rw [outcomeRows, outcomeRows, h.members_eq, rowOf_congr hblockers]
  rw [rows, rows, rowsWith, rowsWith, hrows]

/-- Classifications that show alike have the same lines for members. -/
theorem memberLine_congr (h : c.ShowsAlike d) (o : Outcome) (node : Node) :
    memberLine c o node = memberLine d o node := by
  cases o with
  | failed => rw [memberLine, memberLine, h.find?_failures]
  | _ => rfl

/-- Classifications that show alike have the same lists. -/
theorem categoryLines_congr (h : c.ShowsAlike d) (o : Outcome) :
    categoryLines c o = categoryLines d o := by
  have hline : memberLine c o = memberLine d o := funext (memberLine_congr h o)
  rw [categoryLines, categoryLines, h.members_eq, hline]

/-- Classifications that show alike have the same summary. -/
theorem assemble_congr (h : c.ShowsAlike d) (options : Options) :
    assemble c options = assemble d options := by
  have hcounts : c.counts = d.counts := by
    rw [Classification.counts, Classification.counts, funext h.count_eq]
  funext sections
  simp only [assemble, countLines, unresolvedLines, hcounts, h.unresolved_eq]

/-- Classifications that show the same have the same lines. -/
theorem lines_congr (h : c.ShowsAlike d) (options : Options) :
    lines c options = lines d options := by
  rw [lines, lines, assemble_congr h, funext (categoryLines_congr h)]

end Summary

end PackageBuild
