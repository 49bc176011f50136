import PackageBuild.Proofs.Blocking
import PackageBuild.Proofs.Classification.Gaps
import PackageBuild.Proofs.Classification.Partition
import PackageBuild.Proofs.Summary.Rows
import PackageBuild.Proofs.Summary.Items

/-!
# Summaries of surveys

A survey knows a failure of every failed member, so that each of its members has an item.  Rows and
lines of a survey are therefore had together.

Main results:

- Theorem `exists_failure_of_mem_membersOf`: a failed member has a failure.
- Theorem `length_rows`: there is a row for every unit.
- Theorem `exists_rows`: the rows of a graph that finds its own nodes are always had.
- Theorem `exists_lines_of_rows`: where there are rows there are lines.
- Theorem `exists_lines`: the lines of a graph whose nodes have their shapes are always had.
-/

namespace PackageBuild.Summary

variable {g : Graph} {p : Progress} {n : Node}

/-- A failed member has a failure. -/
theorem exists_failure_of_mem_membersOf (h : n ∈ Survey.membersOf g p .failed) :
    ∃ failure, (Survey.of g p).classification.failures.find? n.buildUnit = some failure := by
  obtain ⟨unit, houtcome, hnode⟩ := Survey.mem_membersOf_iff.1 h
  exact Survey.exists_failure houtcome hnode

/-- There is a row for every unit. -/
theorem length_rows {blockers : Blocking.Blockers} {rs : List Row}
    (h : rows (Survey.of g p).classification blockers = .ok rs) :
    rs.length = (Survey.of g p).classification.total := by
  obtain ⟨members, hmembers, rfl⟩ := rows_eq_ok_iff.1 h
  rw [length_rowBlocks, ← Survey.sum_length_membersOf]
  exact congrArg List.sum
    (List.map_congr_left fun o _ => by rw [Survey.eq_membersOf (hmembers o)])

/-- The rows of a graph that finds its own nodes are always had. -/
theorem exists_rows (hg : g.Typed)
    (hpredecessors : ∀ n ∈ g.nodes, ∃ nodes, g.predecessors (.node n) = .ok nodes)
    (p : Progress) :
    ∃ blockers rs, (Blocking.resolve g (Survey.of g p).classification).2 = .ok blockers ∧
      rows (Survey.of g p).classification blockers = .ok rs := by
  obtain ⟨blockers, hblockers⟩ := Blocking.exists_resolve hg hpredecessors p
  exact ⟨blockers, _, hblockers, rows_eq_ok_iff.2 ⟨_, Survey.members_of hg p, rfl⟩⟩

/-- Where there are rows there are lines. -/
theorem exists_lines_of_rows {blockers : Blocking.Blockers} {rs : List Row}
    (h : rows (Survey.of g p).classification blockers = .ok rs) (options : Options) :
    ∃ ls, lines (Survey.of g p).classification options = .ok ls := by
  rw [exists_lines_iff]
  intro o
  obtain ⟨nodes, hnodes⟩ := exists_rows_iff.1 ⟨rs, h⟩ o
  refine ⟨nodes, hnodes, ?_⟩
  rintro rfl n hn
  rw [Survey.eq_membersOf hnodes] at hn
  exact OrderedMap.mem_keys_iff.2 (exists_failure_of_mem_membersOf hn)

/-- The lines of a graph whose nodes have their shapes are always had. -/
theorem exists_lines (hg : g.Typed) (p : Progress) (options : Options) :
    ∃ ls, lines (Survey.of g p).classification options = .ok ls := by
  obtain ⟨rs, hrows⟩ : ∃ rs, rows (Survey.of g p).classification .empty = .ok rs :=
    exists_rows_iff.2 fun o => ⟨_, Survey.members_of hg p o⟩
  exact exists_lines_of_rows hrows options

end PackageBuild.Summary
