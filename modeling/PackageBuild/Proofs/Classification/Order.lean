import PackageBuild.Classification.Basic

/-!
# The order of members

The members of an outcome stand by the file name of their source archive and, where two archives of
one name lie in different directories, by the path.

Main results:

- Theorem `standsBefore_iff`: the test that the members are sorted by.
- Theorem `pairwise_mergeSort`: nodes with different paths are sorted strictly.
- Theorem `mergeSort_eq_of_perm`: sorting forgets in which order such nodes came.
-/

namespace PackageBuild

/-- A node stands strictly before another one: by file name, then by path. -/
def Node.Precedes (m n : Node) : Prop :=
  m.fileName < n.fileName ∨ m.fileName = n.fileName ∧ m.sourcePath < n.sourcePath

/-- Of two nodes at most one stands strictly before the other. -/
theorem Node.Precedes.asymm {m n : Node} (h : m.Precedes n) : ¬ n.Precedes m := by
  intro h'
  rcases h with hname | ⟨hname, hpath⟩
  · rcases h' with hname' | ⟨hname', -⟩
    · exact String.lt_asymm hname hname'
    · exact String.lt_irrefl _ (hname' ▸ hname)
  · rcases h' with hname' | ⟨-, hpath'⟩
    · exact String.lt_irrefl _ (hname ▸ hname')
    · exact String.lt_asymm hpath hpath'

namespace Classification

/-- Nodes are ordered by their file names, then by their source paths. -/
theorem standsBefore_iff {m n : Node} :
    standsBefore m n = true ↔
      m.fileName < n.fileName ∨ m.fileName = n.fileName ∧ m.sourcePath ≤ n.sourcePath := by
  simp only [standsBefore, Text.atMost, Bool.or_eq_true, Bool.and_eq_true, Bool.not_eq_true',
    decide_eq_true_eq, decide_eq_false_iff_not, beq_iff_eq, String.not_lt]

/-- The order of nodes is transitive. -/
theorem standsBefore_trans (l m n : Node) (hlm : standsBefore l m = true)
    (hmn : standsBefore m n = true) : standsBefore l n = true := by
  rw [standsBefore_iff] at hlm hmn ⊢
  rcases hlm with hlm | ⟨hlm, hpath⟩
  · rcases hmn with hmn | ⟨hmn, -⟩
    · exact .inl (String.lt_trans hlm hmn)
    · exact .inl (hmn ▸ hlm)
  · rcases hmn with hmn | ⟨hmn, hpath'⟩
    · exact .inl (hlm ▸ hmn)
    · exact .inr ⟨hlm.trans hmn, String.le_trans hpath hpath'⟩

/-- The order of nodes is total. -/
theorem standsBefore_total (m n : Node) : (standsBefore m n || standsBefore n m) = true := by
  rw [Bool.or_eq_true, standsBefore_iff, standsBefore_iff]
  by_cases hlt : m.fileName < n.fileName
  · exact .inl (.inl hlt)
  · by_cases hgt : n.fileName < m.fileName
    · exact .inr (.inl hgt)
    · have heq : m.fileName = n.fileName :=
        String.le_antisymm (String.not_lt.1 hgt) (String.not_lt.1 hlt)
      rcases String.le_total m.sourcePath n.sourcePath with hle | hle
      · exact .inl (.inr ⟨heq, hle⟩)
      · exact .inr (.inr ⟨heq.symm, hle⟩)

/-- Between different paths the order is strict. -/
theorem precedes_of_standsBefore {m n : Node} (h : standsBefore m n = true)
    (hne : m.sourcePath ≠ n.sourcePath) : m.Precedes n := by
  rcases standsBefore_iff.1 h with hlt | ⟨heq, hle⟩
  · exact .inl hlt
  · refine .inr ⟨heq, String.not_le.1 ?_⟩
    intro hge
    exact hne (String.le_antisymm hle hge)

/-- Nodes with different paths are sorted into strictly increasing order. -/
theorem pairwise_mergeSort {nodes : List Node} (hpaths : (nodes.map Node.sourcePath).Nodup) :
    (nodes.mergeSort standsBefore).Pairwise Node.Precedes := by
  have hsorted : (nodes.mergeSort standsBefore).Pairwise fun m n => standsBefore m n = true :=
    List.pairwise_mergeSort standsBefore_trans standsBefore_total nodes
  have hdistinct : ((nodes.mergeSort standsBefore).map Node.sourcePath).Nodup :=
    ((List.mergeSort_perm nodes standsBefore).map Node.sourcePath).nodup_iff.2 hpaths
  have hne : (nodes.mergeSort standsBefore).Pairwise fun m n => m.sourcePath ≠ n.sourcePath :=
    List.pairwise_map.1 hdistinct
  exact hsorted.imp₂ (fun m n => precedes_of_standsBefore) hne

/-- Sorting forgets in which order nodes of different paths came. -/
theorem mergeSort_eq_of_perm {nodes others : List Node} (hperm : nodes.Perm others)
    (hpaths : (nodes.map Node.sourcePath).Nodup) :
    nodes.mergeSort standsBefore = others.mergeSort standsBefore := by
  have hpaths' : (others.map Node.sourcePath).Nodup :=
    (hperm.map Node.sourcePath).nodup_iff.1 hpaths
  have hsorted : (nodes.mergeSort standsBefore).Perm (others.mergeSort standsBefore) :=
    (List.mergeSort_perm _ _).trans (hperm.trans (List.mergeSort_perm _ _).symm)
  apply List.Perm.eq_of_pairwise _ (pairwise_mergeSort hpaths) (pairwise_mergeSort hpaths') hsorted
  intro m n _ _ hmn hnm
  exact absurd hnm hmn.asymm

end Classification

end PackageBuild
