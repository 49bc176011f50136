import PackageBuild.Proofs.Blocking.Tokens
import PackageBuild.Proofs.Build.Soundness
import PackageBuild.Proofs.Classification.Partition

/-!
# Annotations taken apart

The tokens of an annotation stand between single blanks, and nothing marks a blank that belongs to a
file name.  The ends of tokens hold no blank, so that it is for the file names alone to say if
cutting the annotation at its blanks gives the tokens back.

Main results:

- Theorem `Classification.blank_mem_tokenOf_iff`: when a token holds a blank.
- Theorem `pieces_annotation_iff`: when an annotation is taken apart into its tokens.
-/

namespace PackageBuild

/-- A token holds a blank exactly when the file name does. -/
theorem Classification.blank_mem_tokenOf_iff (c : Classification) (q : Node) :
    ' ' ∈ (c.tokenOf q).toList ↔ ' ' ∈ q.fileName.toList := by
  have hfailed : ' ' ∉ Blocking.failedSuffix.toList := by decide
  have hunbuilt : ' ' ∉ Blocking.unbuiltSuffix.toList := by decide
  rw [tokenOf, String.toList_append, List.mem_append]
  split <;> simp only [hfailed, hunbuilt, or_false]

namespace Blocking

variable {g : Graph} {n : Node}

/-- In a sound graph a node has an annotation, whatever the classification is.  Cutting one that is
not empty at its blanks gives the tokens of the hindering predecessors, in their order, exactly when
none of their file names holds a blank. -/
theorem pieces_annotation_iff (hg : g.Sound) (c : Classification) (hn : n ∈ g.nodes) :
    ∃ before text, g.predecessors (.node n) = .ok before ∧ annotation g c (.node n) = .ok text ∧
      (text ≠ "" → (Text.pieces text = c.tokensOf before ↔
        ∀ q ∈ before, c.Hinders q → ' ' ∉ q.fileName.toList)) := by
  obtain ⟨before, hbefore⟩ := hg.exists_predecessors hn
  refine ⟨before, _, hbefore, annotation_eq hg.typed hbefore, fun htext => ?_⟩
  have hne : c.tokensOf before ≠ [] := by
    intro hnone
    rw [hnone] at htext
    exact htext rfl
  rw [Text.pieces_joined_iff hne, Classification.tokensOf, List.forall_mem_map]
  simp only [Classification.blank_mem_tokenOf_iff, List.mem_filter, decide_eq_true_eq, and_imp]

/-! ## A file name with a blank -/

/-- An archive that waits for two others, and one that waits for an archive with a blank in its
name. -/
def spacedChanges : List Build.Change :=
  [.node (Build.nodeNamed .build "curl"), .node (Build.nodeNamed .build "zlib"),
    .node (Build.nodeNamed .build "my lib"), .node (Build.nodeNamed .build "app"),
    .node (Build.nodeNamed .build "tool"), Build.between 0 3, Build.between 1 3, Build.between 2 4]

/-- The graph of the five archives. -/
def spacedGraph : Graph := (Build.run {} spacedChanges).graph

/-- A progress in which one archive failed and the others are not yet built. -/
def spacedProgress : Progress :=
  { failures := [⟨(Build.nodeNamed .build "curl").numbered 0, .text "boom", .text ""⟩] }

theorem spacedGraph_sound : spacedGraph.Sound :=
  Build.sound_run (by simp [spacedChanges]) (by decide)

/-- The archive that waits for two others. -/
def appNode : Node := (Build.nodeNamed .build "app").numbered 3

/-- The archive that waits for the one with a blank in its name. -/
def toolNode : Node := (Build.nodeNamed .build "tool").numbered 4

/-- The archive with a blank in its name. -/
def spacedNode : Node := (Build.nodeNamed .build "my lib").numbered 2

/-- The two tokens of the one archive are found again. -/
theorem pieces_annotation_iff_spaced :
    ∃ c before text, spacedGraph.Sound ∧ spacedGraph.classify? spacedProgress = .ok c ∧
      appNode ∈ spacedGraph.nodes ∧
      spacedGraph.predecessors (.node appNode) = .ok before ∧
      annotation spacedGraph c (.node appNode) = .ok text ∧
      Text.pieces text = c.tokensOf before ∧
      c.tokensOf before = ["zlib.src.rpm-UNBUILT", "curl.src.rpm-FAIL"] := by
  have hnode : appNode ∈ spacedGraph.nodes := List.mem_of_getElem? (i := 3) rfl
  obtain ⟨before, text, hbefore, htext, hpieces⟩ := pieces_annotation_iff spacedGraph_sound
    (Survey.of spacedGraph spacedProgress).classification hnode
  have hpredecessors : spacedGraph.predecessors (.node appNode) =
      .ok [(Build.nodeNamed .build "zlib").numbered 1,
        (Build.nodeNamed .build "curl").numbered 0] := rfl
  cases hbefore.symm.trans hpredecessors
  cases htext.symm.trans (annotation_eq spacedGraph_sound.typed hbefore)
  refine ⟨_, _, _, spacedGraph_sound, spacedGraph_sound.typed.classify?_eq_ok _, hnode, hbefore,
    htext, ?_, by decide +kernel⟩
  exact (hpieces (by decide +kernel)).2 (by decide +kernel)

/-- The one token of the other archive is taken apart at the blank in its file name. -/
theorem pieces_annotation_blank :
    ∃ c, spacedGraph.Sound ∧ spacedGraph.classify? spacedProgress = .ok c ∧
      toolNode ∈ spacedGraph.nodes ∧
      spacedGraph.predecessors (.node toolNode) = .ok [spacedNode] ∧
      c.tokensOf [spacedNode] = ["my lib.src.rpm-UNBUILT"] ∧
      annotation spacedGraph c (.node toolNode) = .ok "my lib.src.rpm-UNBUILT" ∧
      Text.pieces "my lib.src.rpm-UNBUILT" = ["my", "lib.src.rpm-UNBUILT"] ∧
      Text.pieces "my lib.src.rpm-UNBUILT" ≠ c.tokensOf [spacedNode] := by
  have hbefore : spacedGraph.predecessors (.node toolNode) = .ok [spacedNode] := rfl
  have htokens : (Survey.of spacedGraph spacedProgress).classification.tokensOf [spacedNode] =
      ["my lib.src.rpm-UNBUILT"] := by decide +kernel
  have htext := annotation_eq (c := (Survey.of spacedGraph spacedProgress).classification)
    spacedGraph_sound.typed hbefore
  rw [htokens] at htext
  refine ⟨_, spacedGraph_sound, spacedGraph_sound.typed.classify?_eq_ok _,
    List.mem_of_getElem? (i := 4) rfl, hbefore, htokens, htext, by decide, ?_⟩
  rw [htokens]
  decide

end Blocking

end PackageBuild
