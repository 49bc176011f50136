import PackageBuild.Build
import PackageBuild.Proofs.Graph.Numbering
import PackageBuild.Proofs.Progress.Growth

/-!
# Growing builds

The graph and the progress of a build only grow: a new node comes behind the others, with a number
that no other one has, and an update takes nothing back of what is known.

Main results:

- Theorem `nodes_run`: the nodes after a run are those before and those that were added.
- Theorem `numbered_run`: the numbers of the nodes are their places.
- Theorem `extends_run`: a build after a run has all that was there before.
-/

namespace PackageBuild

namespace Build

/-! ## The nodes after a run -/

/-- A change adds at most one node, behind the others. -/
theorem nodes_change (b : Build) (c : Change) :
    (b.change c).graph.nodes = b.graph.nodes ++
      (c.added?.map fun new => new.numbered b.graph.nodes.length).toList := by
  cases c with
  | node new => rfl
  | edge before after =>
    simp only [change, Change.added?, Option.map_none, Option.toList_none, List.append_nil]
    split
    · next h => exact Graph.nodes_addEdge h
    · rfl
  | update u => simp [Change.added?]

/-- A run adds the nodes of its changes behind those that are there. -/
theorem nodes_run (b : Build) (cs : List Change) :
    ∃ added, (b.run cs).graph.nodes = b.graph.nodes ++ added ∧
      ∀ n ∈ added, ∃ new id, .node new ∈ cs ∧ n = new.numbered id := by
  induction cs generalizing b with
  | nil => exact ⟨[], by simp, by simp⟩
  | cons c cs ih =>
    obtain ⟨added, hnodes, hadded⟩ := ih (b.change c)
    refine ⟨(c.added?.map fun new => new.numbered b.graph.nodes.length).toList ++ added, ?_, ?_⟩
    · rw [run_cons, hnodes, nodes_change, List.append_assoc]
    · intro n hn
      rcases List.mem_append.1 hn with hn | hn
      · cases c with
        | node new => exact ⟨new, _, List.mem_cons_self, List.mem_singleton.1 hn⟩
        | _ => contradiction
      · obtain ⟨new, id, hnew, rfl⟩ := hadded n hn
        exact ⟨new, id, List.mem_cons_of_mem _ hnew, rfl⟩

/-- A change keeps the nodes numbered. -/
theorem numbered_change {b : Build} (h : b.graph.Numbered) (c : Change) :
    (b.change c).graph.Numbered := by
  cases c with
  | node new => exact h.addNode new
  | edge before after =>
    simp only [change]
    split
    · next hedge => exact h.addEdge hedge
    · exact h
  | update u => exact h

/-- Changes keep the nodes numbered. -/
theorem numbered_of_run {b : Build} (h : b.graph.Numbered) (cs : List Change) :
    (b.run cs).graph.Numbered := by
  induction cs generalizing b with
  | nil => exact h
  | cons c cs ih => exact ih (numbered_change h c)

/-- The nodes of every build are numbered in the order in which they were added. -/
theorem numbered_run (cs : List Change) : (run {} cs).graph.Numbered :=
  numbered_of_run Graph.numbered_empty cs

/-! ## What grows -/

/-- All that is there in one build is there in another one. -/
structure Extends (b b' : Build) : Prop where
  nodes : b.graph.nodes <+: b'.graph.nodes
  progress : b.progress.Extends b'.progress

/-- A change takes nothing back. -/
theorem extends_change (b : Build) (c : Change) : b.Extends (b.change c) where
  nodes := by
    rw [nodes_change]
    exact List.prefix_append _ _
  progress := by
    cases c with
    | node new => exact .refl _
    | edge before after =>
      rw [progress_change_edge]
      exact .refl _
    | update u => exact Progress.extends_attempt _ u

/-- Changes take nothing back. -/
theorem extends_run (b : Build) (cs : List Change) : b.Extends (b.run cs) := by
  induction cs generalizing b with
  | nil => exact ⟨List.prefix_refl _, .refl _⟩
  | cons c cs ih =>
    have hstep := extends_change b c
    have hrest := ih (b.change c)
    exact ⟨hstep.nodes.trans hrest.nodes, hstep.progress.trans hrest.progress⟩

end Build

end PackageBuild
