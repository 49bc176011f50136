import Mathlib.Algebra.GroupWithZero.Nat
import PackageBuild.Proofs.Attempt
import PackageBuild.Summary.Row

/-!
# The rows of a table

The rows stand in one block for each outcome, in report order, and a block has a row for every
member of its outcome.

Main results:

- Theorem `rows_eq_ok_iff`: the rows are had when all members are.
- Theorem `filter_rowBlocks`: the rows with an outcome are its block.
-/

namespace PackageBuild.Summary

variable {c : Classification} {blockers : Blocking.Blockers}

/-- The block of an outcome with these members. -/
def rowBlock (blockers : Blocking.Blockers) (members : Outcome → List Node) (o : Outcome) :
    List Row :=
  (members o).map (rowOf "" blockers o)

/-- The rows of an outcome are those of its members. -/
theorem outcomeRows_eq_ok {members : Outcome → List Node} {o : Outcome}
    (h : c.members o = .ok (members o)) :
    outcomeRows "" c blockers o = .ok (rowBlock blockers members o) := by
  rw [outcomeRows, h]
  rfl

/-- The rows are had when the members of every outcome are. -/
theorem rows_eq_ok_iff {rs : List Row} :
    rows c blockers = .ok rs ↔ ∃ members : Outcome → List Node,
      (∀ o, c.members o = .ok (members o)) ∧
        rs = Outcome.all.flatMap (rowBlock blockers members) := by
  unfold rows rowsWith
  rw [Attempt.map_eq_ok_iff]
  constructor
  · rintro ⟨blocks, hblocks, rfl⟩
    have hmembers (o : Outcome) : ∃ nodes, c.members o = .ok nodes := by
      obtain ⟨block, hblock⟩ := Attempt.exists_of_mapM_eq_ok hblocks (Outcome.mem_all o)
      obtain ⟨nodes, hnodes, -⟩ := Attempt.map_eq_ok_iff.1 hblock
      exact ⟨nodes, hnodes⟩
    choose members hmembers using hmembers
    refine ⟨members, hmembers, ?_⟩
    rw [Attempt.mapM_eq_ok_map fun o _ => outcomeRows_eq_ok (hmembers o)] at hblocks
    cases hblocks
    rfl
  · rintro ⟨members, hmembers, rfl⟩
    exact ⟨_, Attempt.mapM_eq_ok_map fun o _ => outcomeRows_eq_ok (hmembers o), rfl⟩

/-- The rows are had exactly when the members of every outcome are. -/
theorem exists_rows_iff : (∃ rs, rows c blockers = .ok rs) ↔
    ∀ o, ∃ nodes, c.members o = .ok nodes := by
  constructor
  · rintro ⟨rs, hrows⟩ o
    obtain ⟨members, hmembers, -⟩ := rows_eq_ok_iff.1 hrows
    exact ⟨members o, hmembers o⟩
  · intro hmembers
    choose members hmembers using hmembers
    exact ⟨_, rows_eq_ok_iff.2 ⟨members, hmembers, rfl⟩⟩

/-- The rows with an outcome are those of its block. -/
theorem filter_rowBlocks (members : Outcome → List Node) (o : Outcome) :
    (Outcome.all.flatMap (rowBlock blockers members)).filter (fun row => row.outcome = o) =
      rowBlock blockers members o := by
  have hblock (other : Outcome) :
      (rowBlock blockers members other).filter (fun row => row.outcome = o) =
        if other = o then rowBlock blockers members o else [] := by
    rw [rowBlock, List.filter_map]
    by_cases heq : other = o
    · simp [heq, rowBlock, rowOf, Function.comp_def]
    · simp [heq, rowOf, Function.comp_def]
  rw [List.filter_flatMap]
  refine (List.flatMap_congr fun other _ => hblock other).trans ?_
  cases o <;> simp [Outcome.all]

/-- There are as many rows as members. -/
theorem length_rowBlocks (members : Outcome → List Node) :
    (Outcome.all.flatMap (rowBlock blockers members)).length =
      (Outcome.all.map fun o => (members o).length).sum := by
  simp [List.length_flatMap, rowBlock]

end PackageBuild.Summary
