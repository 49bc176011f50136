import Mathlib.Data.List.Dedup
import Mathlib.Data.List.Induction
import PackageBuild.Proofs.Build.Growth
import PackageBuild.Proofs.Graph.Locating

/-!
# Graphs determined by their histories

A graph is what was done to it: its nodes are those that were added, in that order, and before a
node come those for which an edge to it was added, the newest edge first.  An edge that is added
once more keeps its place, and one that is refused leaves nothing behind.

Main results:

- Theorem `nodes_run_eq`: the nodes after a run, with their numbers.
- Theorem `edges_run`: the edges after a run.
- Theorem `predecessors_run`: what comes before a node after a run.
- Theorem `run_represents`: what a graph answers after a run.
-/

namespace PackageBuild

namespace Build

variable {b : Build} {c : Change} {cs : List Change} {edges : List (Int × Int)} {u v : Int}

/-- The numbers below `2 ^ 32` only name the ends of an edge. -/
def Change.Narrow : Change → Prop
  | edge before after => before.Narrow ∧ after.Narrow
  | _ => True

/-! ## The edges of a history -/

/-- The numbers of the two ends of an edge that a change succeeds to add. -/
def addedEdge? (b : Build) : Change → Option (Int × Int)
  | .edge before after =>
    match b.graph.addEdge before after, before.key.asInt?, after.key.asInt? with
    | .ok _, some u, some v => some (u, v)
    | _, _, _ => none
  | _ => none

/-- The edges that changes succeed to add one after another, each as often as it is added. -/
def addedEdges (b : Build) : List Change → List (Int × Int)
  | [] => []
  | c :: cs => (b.addedEdge? c).toList ++ (b.change c).addedEdges cs

/-- The edges of changes are added one list after another. -/
theorem addedEdges_append (b : Build) (cs ds : List Change) :
    b.addedEdges (cs ++ ds) = b.addedEdges cs ++ (b.run cs).addedEdges ds := by
  induction cs generalizing b with
  | nil => rfl
  | cons c cs ih => rw [List.cons_append, addedEdges, addedEdges, ih, run_cons, List.append_assoc]

/-- An edge as a pair of numbers. -/
def ends (edge : Nat × Nat) : Int × Int := (edge.1, edge.2)

/-- Edges with the same ends are the same. -/
theorem ends_injective : Function.Injective ends := by
  rintro ⟨a, b⟩ ⟨a', b'⟩ h
  simpa [ends, Int.ofNat_inj] using h

/-- A change adds at most the edge that it succeeds to add, and only when that is not there. -/
theorem edges_change (hc : c.Narrow) :
    ((b.change c).graph.edges).map ends =
      match b.addedEdge? c with
      | none => b.graph.edges.map ends
      | some edge =>
        if edge ∈ b.graph.edges.map ends then b.graph.edges.map ends
        else edge :: b.graph.edges.map ends := by
  cases c with
  | node new => rfl
  | update u => rfl
  | edge before after =>
    simp only [change, addedEdge?]
    cases hadd : b.graph.addEdge before after with
    | error e => rfl
    | ok g' =>
      obtain ⟨u, v, hu, hv, -, -, -, rfl⟩ := (Graph.addEdge_eq_ok_iff hc.1 hc.2).1 hadd
      have hmem : ((u : Int), (v : Int)) ∈ b.graph.edges.map ends ↔ (u, v) ∈ b.graph.edges :=
        List.mem_map_of_injective ends_injective (a := (u, v))
      simp only [hu, hv, hmem, Graph.link]
      split <;> rfl

/-- The edges after a run are those of its history, the newest first, each where it was first added.
-/
theorem edges_run (hcs : ∀ c ∈ cs, c.Narrow) :
    (run {} cs).graph.edges.map ends = (addedEdges {} cs).reverse.dedup := by
  induction cs using List.reverseRecOn with
  | nil => rfl
  | append_singleton cs c ih =>
    have hbefore := ih fun d hd => hcs d (List.mem_append_left _ hd)
    have hc : c.Narrow := hcs c (List.mem_append_right _ (List.mem_singleton_self c))
    rw [run_append, run_cons, run_nil, edges_change hc, hbefore, addedEdges_append, addedEdges,
      addedEdges, List.append_nil, List.reverse_append]
    cases (run {} cs).addedEdge? c with
    | none => rfl
    | some edge =>
      simp only [Option.toList_some, List.reverse_singleton, List.singleton_append, List.mem_dedup]
      split
      · next hknown => rw [List.dedup_cons_of_mem hknown]
      · next hnew => rw [List.dedup_cons_of_notMem hnew]

/-! ## What comes before a node -/

/-- In a history of edges, the nodes before one node: those with an edge to it, each once, and the
one whose edge was first added last comes first. -/
structure Precede (edges : List (Int × Int)) (v : Int) (us : List Int) : Prop where
  nodup : us.Nodup
  mem_iff : ∀ u, u ∈ us ↔ (u, v) ∈ edges
  newest_first : us.Pairwise fun u w => edges.idxOf (w, v) < edges.idxOf (u, v)

/-- The newest first, each where it first stood: so are the places of first standing in order. -/
theorem pairwise_reverse_dedup (l : List (Int × Int)) :
    l.reverse.dedup.Pairwise fun d e => l.idxOf e < l.idxOf d := by
  induction l using List.reverseRecOn with
  | nil => exact List.Pairwise.nil
  | append_singleton l a ih =>
    have hkept : l.reverse.dedup.Pairwise fun d e => (l ++ [a]).idxOf e < (l ++ [a]).idxOf d := by
      refine ih.imp_of_mem fun {d e} hd he hlt => ?_
      rw [List.mem_dedup, List.mem_reverse] at hd he
      rwa [List.idxOf_append_of_mem hd, List.idxOf_append_of_mem he]
    rw [List.reverse_append, List.reverse_singleton, List.singleton_append]
    by_cases hknown : a ∈ l.reverse
    · rwa [List.dedup_cons_of_mem hknown]
    · rw [List.dedup_cons_of_notMem hknown, List.pairwise_cons]
      refine ⟨fun e he => ?_, hkept⟩
      rw [List.mem_dedup, List.mem_reverse] at he
      rw [List.mem_reverse] at hknown
      rw [List.idxOf_append_of_mem he, List.idxOf_append_of_notMem hknown]
      exact Nat.lt_of_lt_of_le (List.idxOf_lt_length_of_mem he) (Nat.le_add_right _ _)

/-- The first end of an edge to a node. -/
def startTo? (v : Int) (edge : Int × Int) : Option Int := if edge.2 = v then some edge.1 else none

/-- The start of an edge that ends at a number. -/
theorem startTo?_eq_some_iff {edge : Int × Int} : startTo? v edge = some u ↔ edge = (u, v) := by
  obtain ⟨a, b⟩ := edge
  unfold startTo?
  split <;> simp_all [and_comm, eq_comm]

/-- Each edge counts where it was added last, the newest first. -/
theorem precede_filterMap (edges : List (Int × Int)) (v : Int) :
    Precede edges v (edges.reverse.dedup.filterMap (startTo? v)) where
  nodup := by
    refine (List.nodup_dedup _).filterMap fun d e u hd he => ?_
    rw [Option.mem_def, startTo?_eq_some_iff] at hd he
    rw [hd, he]
  mem_iff u := by
    simp [List.mem_filterMap, startTo?_eq_some_iff]
  newest_first := by
    rw [List.pairwise_filterMap]
    refine (pairwise_reverse_dedup edges).imp fun {d e} hlt u hu w hw => ?_
    rw [startTo?_eq_some_iff] at hu hw
    rwa [hu, hw] at hlt

/-! ## Edges between nodes -/

/-- Every edge goes from a node to another one. -/
def Joining (b : Build) : Prop :=
  ∀ edge ∈ b.graph.edges,
    edge.1 < b.graph.nodes.length ∧ edge.2 < b.graph.nodes.length ∧ edge.1 ≠ edge.2

/-- A change keeps the edges those that were added. -/
theorem Joining.change (h : b.Joining) (hc : c.Narrow) : (b.change c).Joining := by
  cases c with
  | node new =>
    intro edge hedge
    obtain ⟨hfirst, hsecond, hne⟩ := h edge hedge
    simp only [Build.change, Graph.nodes_addNode, List.length_append, List.length_singleton]
    exact ⟨Nat.lt_succ_of_lt hfirst, Nat.lt_succ_of_lt hsecond, hne⟩
  | update u => exact h
  | edge before after =>
    unfold Joining
    simp only [Build.change]
    cases hadd : b.graph.addEdge before after with
    | error e => exact h
    | ok g' =>
      obtain ⟨u, v, -, -, hu, hv, hne, rfl⟩ := (Graph.addEdge_eq_ok_iff hc.1 hc.2).1 hadd
      simp only [Graph.link]
      split
      · exact h
      · intro edge hedge
        rcases List.mem_cons.1 hedge with rfl | hedge
        · exact ⟨hu, hv, hne⟩
        · exact h edge hedge

/-- The edges of a graph are those that a run added. -/
theorem joining_run (hcs : ∀ c ∈ cs, c.Narrow) : (run {} cs).Joining := by
  induction cs using List.reverseRecOn with
  | nil => exact fun _ hedge => absurd hedge List.not_mem_nil
  | append_singleton cs c ih =>
    rw [run_append]
    have hbefore := ih fun d hd => hcs d (List.mem_append_left _ hd)
    exact hbefore.change (hcs c (List.mem_append_right _ (List.mem_singleton_self c)))

/-- The places before a node are those that the edges to it start from. -/
theorem map_predecessorPlaces (b : Build) (place : Nat) :
    (b.graph.predecessorPlaces place).map Int.ofNat =
      (b.graph.edges.map ends).filterMap (startTo? place) := by
  rw [Graph.predecessorPlaces, List.map_filterMap, List.filterMap_map]
  refine List.filterMap_congr fun edge _ => ?_
  simp only [Function.comp_apply, startTo?, ends, Int.ofNat_inj]
  split <;> rfl

/-- Places of nodes stand for the nodes with their numbers. -/
theorem map_id_of_places (hnumbered : b.graph.Numbered) {places : List Nat}
    (h : ∀ p ∈ places, p < b.graph.nodes.length) :
    (places.filterMap fun p => b.graph.nodes[p]?).map Node.id =
      (places.map Int.ofNat).map Value.int := by
  have hid : ∀ p ∈ places, (b.graph.nodes[p]?).map Node.id = some (.int p) := by
    intro p hp
    rw [← List.getElem?_map, hnumbered]
    simp [h p hp]
  rw [List.map_filterMap, List.map_map, ← List.filterMap_eq_map]
  exact List.filterMap_congr fun p hp => hid p hp

/-- The predecessors of a node after a run are determined by the history of the edges. -/
theorem predecessors_run (hcs : ∀ c ∈ cs, c.Narrow) {reference : Graph.Reference}
    (hreference : reference.Narrow) {place : Nat}
    (hkey : reference.key.asInt? = some (place : Int))
    (hplace : place < (run {} cs).graph.nodes.length) :
    ∃ ps us, (run {} cs).graph.predecessors reference = .ok ps ∧
      (∀ p ∈ ps, p ∈ (run {} cs).graph.nodes) ∧ ps.map Node.id = us.map Value.int ∧
      Precede (addedEdges {} cs) place us ∧ (place : Int) ∉ us := by
  have hplaces : ∀ p ∈ (run {} cs).graph.predecessorPlaces place,
      p < (run {} cs).graph.nodes.length ∧ p ≠ place := by
    intro p hp
    obtain ⟨edge, hedge, hstart⟩ := List.mem_filterMap.1 hp
    split at hstart
    · next hend =>
      cases hstart
      obtain ⟨hfirst, -, hne⟩ := joining_run hcs edge hedge
      exact ⟨hfirst, hend ▸ hne⟩
    · contradiction
  have hus := map_predecessorPlaces (run {} cs) place
  rw [edges_run hcs] at hus
  refine ⟨_, _, Graph.predecessors_eq hreference hkey hplace, ?_,
    map_id_of_places (numbered_run cs) fun p hp => (hplaces p hp).1, ?_, ?_⟩
  · intro p hp
    obtain ⟨q, -, hq⟩ := List.mem_filterMap.1 hp
    exact List.mem_of_getElem? hq
  · rw [hus]
    exact precede_filterMap _ _
  · intro hself
    obtain ⟨p, hp, hpe⟩ := List.mem_map.1 hself
    exact (hplaces p hp).2 (Int.ofNat_inj.1 hpe)

/-! ## The nodes of a history -/

/-- The nodes after a run are those before and those that were added, each with the next number. -/
theorem nodes_run_eq (b : Build) (cs : List Change) :
    (b.run cs).graph.nodes = b.graph.nodes ++
      ((cs.filterMap Change.added?).zipIdx b.graph.nodes.length).map fun new =>
        new.1.numbered new.2 := by
  induction cs generalizing b with
  | nil => simp
  | cons c cs ih =>
    rw [run_cons, ih, nodes_change, List.filterMap_cons]
    cases c.added? with
    | none => simp
    | some new => simp [List.zipIdx_cons]

/-- The nodes to run are those that are not to be built. -/
theorem runNodes_eq (g : Graph) : g.runNodes = g.nodes.filter fun n => !n.isBuild :=
  List.filter_congr fun n _ => n.isRun_eq_not_isBuild

/-! ## What a graph answers -/

/-- What a graph answers is determined by the changes that led to it. -/
structure Represents (cs : List Change) (b : Build) : Prop where
  /-- The nodes stand in the order in which they were added, with their places as numbers. -/
  nodes : b.graph.nodes =
    (cs.filterMap Change.added?).zipIdx.map fun new => new.1.numbered new.2
  /-- A node has its place as its number and is found by it. -/
  found : ∀ place (h : place < b.graph.nodes.length), b.graph.nodes[place].id = .int place ∧
    (place < Graph.indexBound → b.graph.node (.int place) = .ok b.graph.nodes[place])
  /-- The nodes to build and those to run stand in the order of all nodes. -/
  ordered : b.graph.buildNodes.Sublist b.graph.nodes ∧ b.graph.runNodes.Sublist b.graph.nodes
  /-- They are all nodes, and no node is both. -/
  divided : (b.graph.buildNodes ++ b.graph.runNodes).Perm b.graph.nodes ∧
    ∀ n ∈ b.graph.buildNodes, n ∉ b.graph.runNodes
  /-- Before a node come the nodes for which an edge to it was added, and never the node itself. -/
  predecessors : ∀ (reference : Graph.Reference) (place : Nat), place < Graph.indexBound →
    reference.key.asInt? = some (place : Int) → place < b.graph.nodes.length →
    ∃ ps us, b.graph.predecessors reference = .ok ps ∧ (∀ p ∈ ps, p ∈ b.graph.nodes) ∧
      ps.map Node.id = us.map Value.int ∧ Precede (addedEdges {} cs) place us ∧ (place : Int) ∉ us
  /-- An edge that is refused changes nothing, so that all goes on as if it was not asked for. -/
  refused : ∀ before after e, b.graph.addEdge before after = .error e → ∀ later,
    b.run (.edge before after :: later) = b.run later

/-- After every run, in which edges are asked for rightly or wrongly, the graph is determined by the
run. -/
theorem run_represents (hcs : ∀ c ∈ cs, c.Narrow) : Represents cs (run {} cs) where
  nodes := by
    rw [nodes_run_eq]
    rfl
  found place h := by
    refine ⟨?_, Graph.node_natural h⟩
    have hid := congrArg (·[place]?) (numbered_run cs)
    simpa [h] using hid
  ordered := ⟨List.filter_sublist, List.filter_sublist⟩
  divided := by
    rw [runNodes_eq]
    refine ⟨List.filter_append_perm _ _, fun n hbuild hrun => ?_⟩
    have hboth := (List.mem_filter.1 hrun).2
    rw [(List.mem_filter.1 hbuild).2] at hboth
    contradiction
  predecessors reference place hnarrow hkey hplace := by
    refine predecessors_run hcs ?_ hkey hplace
    intro n hn
    cases hkey.symm.trans hn
    exact Int.ofNat_lt.2 hnarrow
  refused before after e h later := by
    rw [run_cons, change, h]

/-! ## An edge that is added twice -/

/-- A node to be added of a kind and with a name. -/
def nodeNamed (kind : Kind) (name : String) : Graph.NewNode :=
  { kind := kind
    package := .record .package [.text name, .text "", .text "", .text "", .text ""]
    source := .text ("/srpms/" ++ name ++ ".src.rpm") }

/-- An edge between two numbers. -/
def between (u v : Int) : Change := .edge (.value (.int u)) (.value (.int v))

/-- Two packages are needed for a third one; the first edge is added once more, and then an edge of
the third package to itself and edges of unknown nodes are asked for. -/
def curlChanges : List Change :=
  [.node (nodeNamed .build "zlib"), .node (nodeNamed .run "openssl"),
    .node (nodeNamed .build "curl"),
    between 0 2, between 1 2, between 0 2, between 2 2, between 7 2, between (-1) 2]

theorem between_narrow (hu : u < Graph.indexBound) (hv : v < Graph.indexBound) :
    (between u v).Narrow := by
  constructor
  · rintro n ⟨⟩
    exact hu
  · rintro n ⟨⟩
    exact hv

theorem curlChanges_narrow : ∀ c ∈ curlChanges, c.Narrow := by
  simp only [curlChanges, List.forall_mem_cons]
  exact ⟨trivial, trivial, trivial, between_narrow (by decide) (by decide),
    between_narrow (by decide) (by decide), between_narrow (by decide) (by decide),
    between_narrow (by decide) (by decide), between_narrow (by decide) (by decide),
    between_narrow (by decide) (by decide), List.forall_mem_nil _⟩

/-- The newest edge comes first, and the one that was added twice stands where it was added first.
-/
theorem run_represents_curl :
    (∀ c ∈ curlChanges, c.Narrow) ∧ Represents curlChanges (run {} curlChanges) ∧
      addedEdges {} curlChanges = [(0, 2), (1, 2), (0, 2)] ∧
      ((run {} curlChanges).graph.predecessors (.value (.int 2))).map (List.map Node.id) =
        .ok [.int 1, .int 0] :=
  ⟨curlChanges_narrow, run_represents curlChanges_narrow, rfl, rfl⟩

end Build

end PackageBuild
