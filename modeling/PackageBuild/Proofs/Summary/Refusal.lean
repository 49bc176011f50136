import PackageBuild.Proofs.Classification.Gaps
import PackageBuild.Proofs.Classification.Partition
import PackageBuild.Proofs.Classification.Tally
import PackageBuild.Proofs.Summary.Rows
import PackageBuild.Proofs.Summary.Items

/-!
# When summaries are refused

The lines and the rows of a classification look up the node of every unit, and the lines also the
failure of every failed one.  A classification that is made by hand may lack one of them.  Then, and
only then, the summary is refused; what is made of a survey never is.

Main results:

- Theorems `lacks_of_lines_eq_error` and `lacks_of_rows_eq_error`: what is shown when lines or rows
  are refused.
- Theorems `exists_lines_iff_not_lacks` and `exists_rows_iff_not_lacksNode`: when there are lines
  and rows.
- Theorem `refusedByGaps`: lines and rows are refused for gaps and for nothing else, and counting is
  never refused.
-/

namespace PackageBuild.Summary

open Classification (Trouble)

variable {c : Classification} {o : Outcome} {options : Options} {blockers : Blocking.Blockers}
  {trouble : Trouble}

/-! ## What is lacking -/

/-- Something that a classification lacks, as it is shown. -/
inductive Lacks (c : Classification) : Trouble → Prop
  | node {unit : Value.Key} {o : Outcome} (houtcome : c.outcomes.find? unit = some o)
      (hlacks : unit ∉ c.nodes.keys) : Lacks c (.lack (c.shown unit))
  | failure {unit : Value.Key} {n : Node} (houtcome : c.outcomes.find? unit = some .failed)
      (hnode : c.nodes.find? unit = some n) (hlacks : n.buildUnit ∉ c.failures.keys) :
      Lacks c (.lack n.buildUnit.display)

/-- What is lacking is shown in the trouble. -/
theorem Lacks.exists_shown (h : Lacks c trouble) : ∃ shown, trouble = .lack shown := by
  cases h <;> exact ⟨_, rfl⟩

/-! ## Refused lines -/

/-- A member has no item when it is a failed one without a failure. -/
theorem of_memberLine_eq_error {n : Node} (h : memberLine c o n = .error trouble) :
    o = .failed ∧ n.buildUnit ∉ c.failures.keys ∧ trouble = .lack n.buildUnit.display := by
  by_cases ho : o = .failed
  · subst ho
    rw [memberLine] at h
    split at h
    · next hnone => exact ⟨rfl, OrderedMap.notMem_keys_iff.2 hnone, (Except.error.inj h).symm⟩
    · contradiction
  · rw [memberLine_of_ne_failed ho] at h
    contradiction

section Named

-- All source archives can be named, so that nothing but a lookup can fail.
variable (hpaths : ∀ n ∈ c.nodes.values, n.pathFault? = none)

include hpaths

/-- A list is refused because something is lacking. -/
theorem lacks_of_categoryLines_eq_error (h : categoryLines c o = .error trouble) :
    Lacks c trouble := by
  rw [categoryLines, Attempt.bind_eq_error_iff] at h
  rcases h with hmembers | ⟨nodes, hnodes, hlines⟩
  · obtain ⟨unit, houtcome, hlacks, rfl⟩ :=
      Classification.exists_of_members_eq_error hpaths hmembers
    exact .node houtcome hlacks
  · split at hlines
    · contradiction
    · rcases Attempt.bind_eq_error_iff.1 hlines with hitems | ⟨items, -, hpure⟩
      · obtain ⟨n, hn, hline⟩ := Attempt.exists_of_mapM_eq_error hitems
        obtain ⟨rfl, hlacks, rfl⟩ := of_memberLine_eq_error hline
        obtain ⟨unit, houtcome, hnode⟩ := (Classification.mem_members_iff hnodes).1 hn
        exact .failure houtcome hnode hlacks
      · contradiction

/-- When lines are refused, something is shown that the classification lacks. -/
theorem lacks_of_lines_eq_error (h : lines c options = .error trouble) : Lacks c trouble := by
  rw [lines, Attempt.map_eq_error_iff] at h
  obtain ⟨o, -, hsection⟩ := Attempt.exists_of_mapM_eq_error h
  exact lacks_of_categoryLines_eq_error hpaths hsection

/-- There are lines when no unit lacks a node and no failed one a failure. -/
theorem exists_lines_iff_not_lacks :
    (∃ ls, lines c options = .ok ls) ↔ ¬ (c.LacksNode ∨ c.LacksFailure) := by
  rw [exists_lines_iff, not_or, ← Classification.forall_exists_members_iff hpaths]
  constructor
  · intro hitems
    refine ⟨fun o => (hitems o).imp fun _ hnodes => hnodes.1, ?_⟩
    rintro ⟨unit, n, houtcome, hnode, hlacks⟩
    obtain ⟨nodes, hnodes, hfailures⟩ := hitems .failed
    have hn : n ∈ nodes := (Classification.mem_members_iff hnodes).2 ⟨unit, houtcome, hnode⟩
    exact hlacks (hfailures rfl n hn)
  · rintro ⟨hmembers, hcomplete⟩ o
    obtain ⟨nodes, hnodes⟩ := hmembers o
    refine ⟨nodes, hnodes, ?_⟩
    rintro rfl n hn
    obtain ⟨unit, houtcome, hnode⟩ := (Classification.mem_members_iff hnodes).1 hn
    by_contra hlacks
    exact hcomplete ⟨unit, n, houtcome, hnode, hlacks⟩

/-- Lines are refused for something lacking exactly when there is a gap. -/
theorem lines_lack_iff :
    (∃ shown, lines c options = .error (.lack shown)) ↔ c.LacksNode ∨ c.LacksFailure := by
  apply Classification.exists_lack_iff (exists_lines_iff_not_lacks hpaths)
  intro trouble h
  exact (lacks_of_lines_eq_error hpaths h).exists_shown

/-! ## Refused rows -/

/-- When rows are refused, something is shown that the classification lacks. -/
theorem lacks_of_rows_eq_error (h : rows c blockers = .error trouble) : Lacks c trouble := by
  rw [rows, rowsWith, Attempt.map_eq_error_iff] at h
  obtain ⟨o, -, hblock⟩ := Attempt.exists_of_mapM_eq_error h
  obtain ⟨unit, houtcome, hlacks, rfl⟩ :=
    Classification.exists_of_members_eq_error hpaths (Attempt.map_eq_error_iff.1 hblock)
  exact .node houtcome hlacks

/-- There are rows when no unit lacks a node. -/
theorem exists_rows_iff_not_lacksNode : (∃ rs, rows c blockers = .ok rs) ↔ ¬ c.LacksNode := by
  rw [exists_rows_iff, Classification.forall_exists_members_iff hpaths]

/-- Rows are refused for something lacking exactly when a unit lacks a node. -/
theorem rows_lack_iff :
    (∃ shown, rows c blockers = .error (.lack shown)) ↔ c.LacksNode := by
  apply Classification.exists_lack_iff (exists_rows_iff_not_lacksNode hpaths)
  intro trouble h
  exact (lacks_of_rows_eq_error hpaths h).exists_shown

end Named

/-! ## Gaps and nothing else -/

/-- Summaries of a classification are refused for its gaps and for nothing else. -/
structure RefusedByGaps (c : Classification) (options : Options) (blockers : Blocking.Blockers) :
    Prop where
  /-- Lines are refused for something lacking when a unit has no node or a failed one no failure. -/
  lines_lack : (∃ shown, lines c options = .error (.lack shown)) ↔ c.LacksNode ∨ c.LacksFailure
  /-- Otherwise there are lines. -/
  exists_lines : ¬ (c.LacksNode ∨ c.LacksFailure) → ∃ ls, lines c options = .ok ls
  /-- Rows are refused for something lacking when a unit has no node. -/
  rows_lack : (∃ shown, rows c blockers = .error (.lack shown)) ↔ c.LacksNode
  /-- Otherwise there are rows. -/
  exists_rows : ¬ c.LacksNode → ∃ rs, rows c blockers = .ok rs
  /-- Counting is never refused. -/
  exists_tally : ∃ m, c.tally = .ok m ∧ m.entries = c.counts
  /-- Lines and rows of a classified graph are never refused. -/
  classified : ∀ (g : Graph) (p : Progress), g.classify? p = .ok c →
    (∃ ls, lines c options = .ok ls) ∧ ∃ rs, rows c blockers = .ok rs

/-- Where the source archives of all nodes are named by texts, summaries are refused for gaps and
for nothing else, whatever the three maps have to do with each other. -/
theorem refusedByGaps (hsources : ∀ n ∈ c.nodes.values, ∃ path, n.source = .text path)
    (options : Options) (blockers : Blocking.Blockers) : RefusedByGaps c options blockers := by
  have hpaths : ∀ n ∈ c.nodes.values, n.pathFault? = none := by
    intro n hn
    obtain ⟨path, hpath⟩ := hsources n hn
    rw [Node.pathFault?, hpath]
    rfl
  exact
    { lines_lack := lines_lack_iff hpaths
      exists_lines := (exists_lines_iff_not_lacks hpaths).2
      rows_lack := rows_lack_iff hpaths
      exists_rows := (exists_rows_iff_not_lacksNode hpaths).2
      exists_tally := Classification.exists_tally c
      classified := by
        intro g p hclassified
        obtain ⟨-, -, rfl⟩ := Graph.classify?_eq_ok_iff.1 hclassified
        have hnode := Survey.not_lacksNode g p
        have hfailure := Survey.not_lacksFailure g p
        exact ⟨(exists_lines_iff_not_lacks hpaths).2 (not_or.2 ⟨hnode, hfailure⟩),
          (exists_rows_iff_not_lacksNode hpaths).2 hnode⟩ }

/-- A failed unit whose failure is known, but whose node belongs to another unit. -/
def astray : Classification where
  outcomes := .ofList [(.text "/new/zlib.src.rpm", .failed)]
  nodes := .ofList [(.text "/new/zlib.src.rpm", Survey.zlibNode 0 "/old")]
  failures := .ofList [(.text "/new/zlib.src.rpm",
    ⟨Survey.zlibNode 0 "/new", .text "first", .text ""⟩)]

/-- The failure is looked for under the path of the node, so that there are rows and no lines. -/
theorem refusedByGaps_astray :
    RefusedByGaps astray {} .empty ∧ (∃ shown, lines astray {} = .error (.lack shown)) ∧
      ∃ rs, rows astray .empty = .ok rs := by
  have hsources : ∀ n ∈ astray.nodes.values, ∃ path, n.source = .text path := by
    intro n hn
    obtain rfl : n = Survey.zlibNode 0 "/old" := List.mem_singleton.1 hn
    exact ⟨_, rfl⟩
  have hrefused := refusedByGaps hsources {} .empty
  have hnode : ¬ astray.LacksNode := by
    rintro ⟨unit, hunit, hlacks⟩
    exact hlacks hunit
  have hfailure : astray.LacksFailure :=
    ⟨.text "/new/zlib.src.rpm", Survey.zlibNode 0 "/old", rfl, rfl, by decide⟩
  exact ⟨hrefused, hrefused.lines_lack.2 (.inr hfailure), hrefused.exists_rows hnode⟩

end PackageBuild.Summary
