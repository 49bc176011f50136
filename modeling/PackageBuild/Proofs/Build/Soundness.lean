import PackageBuild.Proofs.Build.Keeping
import PackageBuild.Proofs.Build.Representation

/-!
# Sound graphs

A graph that a build has made of nodes with parts of their shapes is sound: it can be classified
whatever the progress is, and every node finds what comes before it.

Main results:

- Theorem `Graph.Sound.exists_predecessors`: a node of a sound graph finds its predecessors.
- Theorem `Build.sound_run`: the graph of every run is sound.
-/

namespace PackageBuild

/-- The nodes of a graph have parts of their shapes and their places as numbers, and there are no
more of them than numbers that the graph takes. -/
structure Graph.Sound (g : Graph) : Prop where
  typed : g.Typed
  numbered : g.Numbered
  small : g.nodes.length ≤ widthBound

namespace Graph

variable {g : Graph} {n : Node}

/-- Every node of a sound graph finds what must be built before it. -/
theorem Sound.exists_predecessors (hg : g.Sound) (hn : n ∈ g.nodes) :
    ∃ before, g.predecessors (.node n) = .ok before :=
  hg.numbered.exists_predecessors hg.small n hn

end Graph

namespace Build

/-- A run that adds nodes with parts of their shapes, and no more of them than there are numbers,
makes a sound graph. -/
theorem sound_run {cs : List Change} (hcs : ∀ c ∈ cs, c.Typed)
    (hsmall : (run {} cs).graph.nodes.length ≤ Graph.widthBound) : (run {} cs).graph.Sound where
  typed := by
    intro n hn
    obtain ⟨added, hnodes, hadded⟩ := nodes_run {} cs
    rw [hnodes, List.nil_append] at hn
    obtain ⟨new, id, hnew, rfl⟩ := hadded n hn
    exact hcs _ hnew new id rfl
  numbered := numbered_run cs
  small := hsmall

/-! ## Builds of named packages -/

@[simp]
theorem typed_nodeNamed (kind : Kind) (name : String) :
    Change.Typed (.node (nodeNamed kind name)) := by
  rintro new id ⟨⟩
  exact Node.typed_plain _ _ _ _ _

@[simp]
theorem typed_between (u v : Int) : Change.Typed (between u v) := Change.typed_edge _ _

end Build

end PackageBuild
