import Mathlib.Data.List.Nodup
import PackageBuild.Graph.Basic
import PackageBuild.Proofs.Attempt

/-!
# Numbered nodes

The nodes of a graph are numbered in the order in which they are added, from zero on, so that a node
of the graph is known by its number.

Main results:

- Theorems `Numbered.addNode` and `Numbered.addEdge`: adding keeps the numbers.
- Theorem `Numbered.eq_of_key_eq`: nodes with one number are the same.
- Theorem `Numbered.exists_predecessors`: every node finds what must be built before it.
- Theorem `mem_nodes_of_predecessors`: that are nodes of the graph.
-/

namespace PackageBuild.Graph

/-- The numbers of the nodes are their places. -/
def Numbered (g : Graph) : Prop :=
  g.nodes.map Node.id = (List.range g.nodes.length).map fun place : Nat => .int place

theorem numbered_empty : Numbered {} := rfl

variable {g : Graph}

/-- The number of a node is its place. -/
theorem Numbered.id_getElem (h : g.Numbered) {place : Nat} (hplace : place < g.nodes.length) :
    g.nodes[place].id = .int place := by
  have hid := congrArg (·[place]?) h
  simpa [hplace] using hid

/-- A new node gets the next number. -/
theorem Numbered.addNode (h : g.Numbered) (new : NewNode) : (g.addNode new).1.Numbered := by
  rw [Numbered, nodes_addNode, List.length_append, List.length_singleton, List.range_succ,
    List.map_append, List.map_append, h]
  rfl

/-- An edge changes no node. -/
theorem nodes_addEdge {before after : Reference} {g' : Graph}
    (h : g.addEdge before after = .ok g') : g'.nodes = g.nodes := by
  simp only [addEdge, Attempt.bind_eq_ok_iff] at h
  obtain ⟨source, -, target, -, h⟩ := h
  split at h
  · simp [throw, throwThe, MonadExceptOf.throw, bind, Except.bind] at h
  · cases h
    exact nodes_link g source target

/-- Adding an edge keeps the nodes numbered. -/
theorem Numbered.addEdge {before after : Reference} {g' : Graph} (h : g.Numbered)
    (hedge : g.addEdge before after = .ok g') : g'.Numbered := by
  rw [Numbered, nodes_addEdge hedge]
  exact h

/-- No two places have nodes with one number. -/
theorem Numbered.nodup_keys (h : g.Numbered) : (g.nodes.map Node.key).Nodup := by
  have hkeys : g.nodes.map Node.key =
      (List.range g.nodes.length).map fun place : Nat => Value.Key.number place := by
    calc
      g.nodes.map Node.key = (g.nodes.map Node.id).map Value.Key.ofValue := by
        rw [List.map_map]
        rfl
      _ = (List.range g.nodes.length).map fun place : Nat => Value.Key.number place := by
        rw [h, List.map_map]
        rfl
  rw [hkeys]
  refine List.Nodup.map ?_ List.nodup_range
  intro i j hij
  exact Int.ofNat_inj.1 (Value.Key.number.inj hij)

/-- Nodes with one number are the same. -/
theorem Numbered.eq_of_key_eq (h : g.Numbered) {m n : Node} (hm : m ∈ g.nodes) (hn : n ∈ g.nodes)
    (hkey : m.key = n.key) : m = n :=
  List.inj_on_of_nodup_map h.nodup_keys hm hn hkey

/-- The number of a node always leads to some place, though not always to its own: a number counts
modulo `2 ^ 32`. -/
theorem exists_locate {k : Nat} (hk : k < g.nodes.length) (hwide : k < widthBound) :
    ∃ place, g.locate (.int k) = .ok place := by
  have hplace : k % indexBound < g.nodes.length := Nat.lt_of_le_of_lt (Nat.mod_le _ _) hk
  refine ⟨k % indexBound, ?_⟩
  simp [locate, isNegative_natural, Value.asInt?, index?, Nat.not_le.2 hwide, hplace, bind,
    Except.bind, pure, Except.pure]

/-- Every node of a graph that is not too large finds what must be built before it. -/
theorem Numbered.exists_predecessors (h : g.Numbered) (hsize : g.nodes.length ≤ widthBound)
    (n : Node) (hn : n ∈ g.nodes) : ∃ nodes, g.predecessors (.node n) = .ok nodes := by
  have hid : n.id ∈ (List.range g.nodes.length).map fun place : Nat => Value.int place := by
    rw [← h]
    exact List.mem_map_of_mem hn
  obtain ⟨k, hk, hkey⟩ := List.mem_map.1 hid
  rw [List.mem_range] at hk
  obtain ⟨place, hplace⟩ := exists_locate hk (Nat.lt_of_lt_of_le hk hsize)
  refine ⟨_, Attempt.bind_eq_ok_iff.2 ⟨place, ?_, rfl⟩⟩
  rw [Reference.key, ← hkey, hplace]

/-- What must be built before a node are nodes of the graph. -/
theorem mem_nodes_of_predecessors {reference : Reference} {before : List Node}
    (h : g.predecessors reference = .ok before) {q : Node} (hq : q ∈ before) : q ∈ g.nodes := by
  obtain ⟨place, -, hplace⟩ := Attempt.bind_eq_ok_iff.1 h
  cases hplace
  obtain ⟨p, -, hp⟩ := List.mem_filterMap.1 hq
  exact List.mem_of_getElem? hp

end PackageBuild.Graph
