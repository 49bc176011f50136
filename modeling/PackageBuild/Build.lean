import PackageBuild.Graph.Basic
import PackageBuild.Progress.Basic

/-!
# Builds

A build has a package graph and the progress of the work on it.  Both change step by step and in any
order: nodes and edges are added to the graph, and the workers update the progress.

Main results:

- `run_append`: changes one after another.
- `progress_change_edge` and `graph_change_update`: which part a change leaves as it is.
-/

namespace PackageBuild

/-- A package graph and the progress of the work on it. -/
structure Build where
  graph : Graph := {}
  progress : Progress := {}

namespace Build

/-- A change of a build. -/
inductive Change where
  | node (new : Graph.NewNode)
  | edge (before after : Graph.Reference)
  | update (update : Progress.Update)

/-- The node that a change adds. -/
def Change.added? : Change → Option Graph.NewNode
  | node new => some new
  | _ => none

/-- The build after a change; an edge or an update that is refused changes nothing. -/
def change (b : Build) : Change → Build
  | .node new => { b with graph := (b.graph.addNode new).1 }
  | .edge before after =>
    match b.graph.addEdge before after with
    | .ok graph => { b with graph := graph }
    | .error _ => b
  | .update u => { b with progress := b.progress.attempt u }

/-- The build after changes, one after another. -/
def run (b : Build) (changes : List Change) : Build := changes.foldl change b

@[simp] theorem run_nil (b : Build) : b.run [] = b := rfl

@[simp] theorem run_cons (b : Build) (c : Change) (cs : List Change) :
    b.run (c :: cs) = (b.change c).run cs := rfl

/-- Changes are made one list after another. -/
theorem run_append (b : Build) (cs ds : List Change) : b.run (cs ++ ds) = (b.run cs).run ds :=
  List.foldl_append

@[simp] theorem graph_change_update (b : Build) (u : Progress.Update) :
    (b.change (.update u)).graph = b.graph := rfl

@[simp] theorem progress_change_edge (b : Build) (before after : Graph.Reference) :
    (b.change (.edge before after)).progress = b.progress := by
  simp only [change]
  split <;> rfl

end Build

end PackageBuild
