import PackageBuild.Classification.Survey

/-!
# Graphs that cannot be surveyed

The parts of a node are not checked when it is made. A build unit needs a source path that can be a
key, and a package that was not found needs a display text. Where one of these is missing, the
survey is refused.

Main results:

- `unitFault?_eq_none` and `packageFault?_eq_none`: nothing is refused when no node has a fault.
-/

namespace PackageBuild.Graph

/-- Why the units of a graph cannot be keys, if they cannot. -/
def unitFault? (g : Graph) : Option Value.Fault := g.buildNodes.findSome? Node.unitFault?

/-- Why the unresolved packages of a graph have no texts, if they have none. -/
def packageFault? (g : Graph) : Option Value.Fault :=
  (g.runNodes.filter Node.isUnresolved).findSome? Node.packageFault?

theorem findSome?_filter_eq_none {f : Node → Option Value.Fault} {p : Node → Bool}
    {nodes : List Node} (h : ∀ n ∈ nodes, f n = none) : (nodes.filter p).findSome? f = none := by
  simp only [List.findSome?_eq_none_iff, List.mem_filter]
  exact fun n hn => h n hn.1

/-- Units have keys when all source paths can be keys. -/
theorem unitFault?_eq_none {g : Graph} (keys : ∀ n ∈ g.nodes, n.unitFault? = none) :
    g.unitFault? = none :=
  findSome?_filter_eq_none keys

/-- Unresolved packages have texts when all packages have one. -/
theorem packageFault?_eq_none {g : Graph} (packages : ∀ n ∈ g.nodes, n.packageFault? = none) :
    g.packageFault? = none :=
  findSome?_filter_eq_none fun n hn => packages n (List.mem_filter.1 hn).1

end PackageBuild.Graph
