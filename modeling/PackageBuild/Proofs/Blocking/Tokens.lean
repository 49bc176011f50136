import PackageBuild.Blocking
import PackageBuild.Proofs.Classification.Units
import PackageBuild.Proofs.Graph.Numbering
import PackageBuild.Proofs.Text.Pieces

/-!
# Tokens of predecessors

A predecessor hinders a node when its unit failed or was never built, and then it has a token.  The
annotation of a node joins the tokens of its hindering predecessors, which are described here by the
outcomes of their units.

Main results:

- Theorem `Blocking.token?_eq`: the token of a predecessor by the outcome of its unit.
- Theorem `Blocking.annotation_eq`: the annotation of a node whose predecessors are had.
- Theorem `Classification.tokenOf_mem_tokensOf_iff`: when the token of a node is among those of
  others.
- Theorem `Classification.joined_tokensOf_eq_empty_iff`: when an annotation is empty.
-/

namespace PackageBuild

/-- The two ends of tokens cannot be taken for each other. -/
theorem Blocking.append_failedSuffix_ne (s t : String) :
    s ++ failedSuffix ≠ t ++ unbuiltSuffix := by
  intro h
  have hlast := congrArg (fun text => text.toList.getLast?) h
  simp only [String.toList_append, List.getLast?_append] at hlast
  simp [failedSuffix, unbuiltSuffix] at hlast

namespace Classification

variable {c : Classification} {q r : Node} {before : List Node}

/-- A node hinders those behind it when its unit failed or was never built. -/
def Hinders (c : Classification) (q : Node) : Prop :=
  c.outcomeOf? q = some .failed ∨ c.outcomeOf? q = some .unbuilt

instance : DecidablePred c.Hinders := fun _ => inferInstanceAs (Decidable (_ ∨ _))

/-- The token of a hindering node: its file name and the outcome of its unit. -/
def tokenOf (c : Classification) (q : Node) : String :=
  q.fileName ++
    if c.outcomeOf? q = some .failed then Blocking.failedSuffix else Blocking.unbuiltSuffix

/-- The tokens of the hindering ones among nodes, in their order, each as often as it comes up. -/
def tokensOf (c : Classification) (before : List Node) : List String :=
  (before.filter c.Hinders).map c.tokenOf

/-- The failed units are those of nodes with that outcome. -/
theorem mem_failedUnits_iff : q.buildUnit ∈ c.failedUnits ↔ c.outcomeOf? q = some .failed :=
  mem_unitsWith_iff

/-- The unbuilt units are those of nodes with that outcome. -/
theorem mem_unbuiltUnits_iff : q.buildUnit ∈ c.unbuiltUnits ↔ c.outcomeOf? q = some .unbuilt :=
  mem_unitsWith_iff

/-- The token of a node of a failed unit. -/
theorem tokenOf_of_failed (h : c.outcomeOf? q = some .failed) :
    c.tokenOf q = q.fileName ++ Blocking.failedSuffix := by
  rw [tokenOf, if_pos h]

/-- The token of a node of an unbuilt unit. -/
theorem tokenOf_of_unbuilt (h : c.outcomeOf? q = some .unbuilt) :
    c.tokenOf q = q.fileName ++ Blocking.unbuiltSuffix := by
  rw [tokenOf, if_neg]
  simp [h]

/-- The tokens of two hindering nodes are equal exactly when they have one file name and one
outcome. -/
theorem tokenOf_eq_iff (hq : c.Hinders q) (hr : c.Hinders r) :
    c.tokenOf q = c.tokenOf r ↔ q.fileName = r.fileName ∧ c.outcomeOf? q = c.outcomeOf? r := by
  rcases hq with hq | hq <;> rcases hr with hr | hr
  · simp [tokenOf_of_failed hq, tokenOf_of_failed hr, hq, hr]
  · simp [tokenOf_of_failed hq, tokenOf_of_unbuilt hr, Blocking.append_failedSuffix_ne, hq, hr]
  · simp [tokenOf_of_unbuilt hq, tokenOf_of_failed hr, (Blocking.append_failedSuffix_ne _ _).symm,
      hq, hr]
  · simp [tokenOf_of_unbuilt hq, tokenOf_of_unbuilt hr, hq, hr]

/-- A token is never empty, whatever the file name is. -/
theorem tokenOf_ne_empty (c : Classification) (q : Node) : c.tokenOf q ≠ "" := by
  rw [tokenOf, ne_eq, String.append_eq_empty_iff]
  rintro ⟨-, hend⟩
  split at hend <;> contradiction

/-- The tokens are those of hindering predecessors. -/
theorem mem_tokensOf_iff {token : String} :
    token ∈ c.tokensOf before ↔ ∃ q ∈ before, c.Hinders q ∧ c.tokenOf q = token := by
  simp [tokensOf, and_assoc]

/-- The token of a hindering node is among those of other nodes exactly when one of them has its
file name and its outcome. -/
theorem tokenOf_mem_tokensOf_iff (hq : c.Hinders q) :
    c.tokenOf q ∈ c.tokensOf before ↔
      ∃ r ∈ before, r.fileName = q.fileName ∧ c.outcomeOf? r = c.outcomeOf? q := by
  rw [mem_tokensOf_iff]
  refine exists_congr fun r => and_congr_right fun _ => ?_
  constructor
  · rintro ⟨hr, htoken⟩
    exact (tokenOf_eq_iff hr hq).1 htoken
  · rintro ⟨hname, houtcome⟩
    have hr : c.Hinders r := by
      rwa [Hinders, houtcome]
    exact ⟨hr, (tokenOf_eq_iff hr hq).2 ⟨hname, houtcome⟩⟩

/-- The joined tokens are empty when no node hinders. -/
theorem joined_tokensOf_eq_empty_iff {between : String} :
    Text.joined between (c.tokensOf before) = "" ↔ ∀ q ∈ before, ¬c.Hinders q := by
  have hne : ∀ token ∈ c.tokensOf before, token ≠ "" :=
    List.forall_mem_map.2 fun q _ => tokenOf_ne_empty c q
  rw [Text.joined_eq_empty_iff hne, tokensOf, List.map_eq_nil_iff, List.filter_eq_nil_iff]
  simp

end Classification

namespace Blocking

variable {g : Graph} {c : Classification} {q : Node} {before : List Node}

/-- A predecessor gives its token when it hinders, and else none. -/
theorem token?_eq (c : Classification) (q : Node) :
    token? c.failedUnits c.unbuiltUnits q = if c.Hinders q then some (c.tokenOf q) else none := by
  unfold token? suffix? Classification.tokenOf Classification.Hinders
  simp only [Classification.mem_failedUnits_iff, Classification.mem_unbuiltUnits_iff]
  by_cases hfailed : c.outcomeOf? q = some .failed
  · simp [hfailed]
  · by_cases hunbuilt : c.outcomeOf? q = some .unbuilt <;> simp [hunbuilt, hfailed]

/-- The tokens that a resolution makes are those of hindering predecessors, in order. -/
theorem filterMap_token? (c : Classification) (before : List Node) :
    before.filterMap (token? c.failedUnits c.unbuiltUnits) = c.tokensOf before := by
  rw [Classification.tokensOf, ← List.filterMap_eq_map, List.filterMap_filter]
  refine List.filterMap_congr fun q _ => ?_
  rw [token?_eq]
  simp

/-- The annotation of a node joins the tokens of its hindering predecessors. -/
theorem annotation_eq (hg : g.Typed) {reference : Graph.Reference}
    (h : g.predecessors reference = .ok before) :
    annotation g c reference = .ok (Text.joined " " (c.tokensOf before)) := by
  have hfault : before.findSome? (fault? c.failedUnits c.unbuiltUnits) = none := by
    rw [List.findSome?_eq_none_iff]
    intro q hq
    have htyped : q.Typed := hg q (Graph.mem_nodes_of_predecessors h hq)
    simp [fault?, htyped.unitFault?_eq_none, htyped.pathFault?_eq_none]
  unfold annotation tokens
  rw [h]
  simp only [hfault, filterMap_token?]
  rfl

end Blocking

end PackageBuild
