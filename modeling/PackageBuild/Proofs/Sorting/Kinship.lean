import Mathlib.Data.List.Pairwise
import PackageBuild.Proofs.Sorting.Merge

/-!
# What a sorted list is

Every step of sorting puts values together only after it has compared one of each side.  So a list
that can be sorted holds values all of one kin, and the result has the same values.

Main results:

- Theorem `compares_takeRun`: a run from the front of a list is of one kin.
- Theorem `compares_mergeDeeper`: merging pending runs keeps their values and keeps them akin.
- Theorem `compares_sort`: a list that can be sorted is of one kin, and sorting loses nothing.
-/

namespace PackageBuild.Sorting

variable {α ε : Type} {less : α → α → Except ε Bool} {members : List α} {r : α → α → Prop}

/-! ## Runs of one kin -/

/-- Values from a list of which any two are akin. -/
structure Akin (r : α → α → Prop) (members run : List α) : Prop where
  subset : run ⊆ members
  pairwise : run.Pairwise r
  ne_nil : run ≠ []

/-- Lists with the same values are permutations of each other. -/
theorem perm_of_values {xs ys : List α} (h : values xs = values ys) : xs.Perm ys :=
  Multiset.coe_eq_coe.1 h

/-- Two groups are one if a value of the first is akin to one of the second. -/
theorem Kinship.pairwise_append (hr : Kinship less r) {xs ys : List α} (hxs : xs.Pairwise r)
    (hys : ys.Pairwise r) (h : ∃ x ∈ xs, ∃ y ∈ ys, r x y) : (xs ++ ys).Pairwise r := by
  obtain ⟨x, hx, y, hy, hxy⟩ := h
  have : Std.Symm r := ⟨fun _ _ => hr.symm⟩
  refine List.pairwise_append.2 ⟨hxs, hys, fun a ha b hb => ?_⟩
  have hay : r a y := by
    by_cases hax : a = x
    · exact hax ▸ hxy
    · exact hr.trans (hxs.forall ha hx hax) hxy
  by_cases hyb : y = b
  · exact hyb ▸ hay
  · exact hr.trans hay (hys.forall hy hb hyb)

/-- Kinship depends on the values alone. -/
theorem Akin.of_values (hr : Kinship less r) {run run' : List α} (h : Akin r members run)
    (heq : values run' = values run) : Akin r members run' := by
  have hperm := perm_of_values heq
  refine ⟨fun x hx => h.subset (hperm.mem_iff.1 hx), ?_, fun hnil => h.ne_nil ?_⟩
  · exact (hperm.pairwise_iff hr.symm).2 h.pairwise
  · exact List.nil_perm.1 (hnil ▸ hperm)

/-- Two lists of kin are of one kin together when one value of each is. -/
theorem Akin.append (hr : Kinship less r) {xs ys : List α} (hxs : Akin r members xs)
    (hys : Akin r members ys) (h : ∃ x ∈ xs, ∃ y ∈ ys, r x y) : Akin r members (xs ++ ys) where
  subset := List.append_subset.2 ⟨hxs.subset, hys.subset⟩
  pairwise := hr.pairwise_append hxs.pairwise hys.pairwise h
  ne_nil := by simp [hxs.ne_nil]

/-- A single member is akin to itself. -/
theorem akin_singleton {x : α} (hx : x ∈ members) : Akin r members [x] where
  subset := by simpa using hx
  pairwise := List.pairwise_singleton r x
  ne_nil := List.cons_ne_nil x []

/-- A member that is akin to one of a list is akin to all of them. -/
theorem Akin.cons (hr : Kinship less r) {x : α} {run : List α} (h : Akin r members run)
    (hx : x ∈ members) (hakin : ∃ y ∈ run, r x y) : Akin r members (x :: run) :=
  (akin_singleton hx).append hr h ⟨x, List.mem_singleton_self x, hakin⟩

/-! ## Runs in a list -/

/-- A run of one kin taken from some values, and the rest of them. -/
def Takes (r : α → α → Prop) (members : List α) (all : Multiset α) (taken : List α × List α) :
    Prop :=
  values taken.1 + values taken.2 = all ∧ Akin r members taken.1

/-- What is left behind a run consists of members. -/
theorem Takes.rest_subset {items : List α} {taken : List α × List α}
    (h : Takes r members (values items) taken) (hitems : items ⊆ members) : taken.2 ⊆ members := by
  have hperm : (taken.1 ++ taken.2).Perm items := perm_of_values h.1
  exact fun x hx => hitems (hperm.mem_iff.1 (List.mem_append_right taken.1 hx))

/-- A falling run takes values that are akin, and comparing fails only as members fail. -/
theorem compares_fallingRun (hr : Kinship less r) {last : α} {reversed rest : List α}
    (hrest : rest ⊆ members) (h : Akin r members (last :: reversed)) :
    Compares less members (Takes r members (values (last :: reversed) + values rest))
      (fallingRun less last reversed rest) := by
  induction rest generalizing last reversed with
  | nil => exact ⟨rfl, h⟩
  | cons x rest ih =>
    obtain ⟨hx, hrest⟩ := List.cons_subset.1 hrest
    have hlast := h.subset List.mem_cons_self
    rw [fallingRun]
    refine (comparesOnly_less hx hlast).bind fun below hless _ => ?_
    have hcons := h.cons hr hx ⟨last, List.mem_cons_self, hr.of_less hless⟩
    split
    · refine (ih hrest hcons).mono fun taken ht => ⟨?_, ht.2⟩
      grind [Takes]
    · exact ⟨rfl, h⟩

/-- A rising run takes values that are akin, and comparing fails only as members fail. -/
theorem compares_risingRun (hr : Kinship less r) {last : α} {reversed rest : List α}
    (hrest : rest ⊆ members) (h : Akin r members (last :: reversed)) :
    Compares less members (Takes r members (values (last :: reversed) + values rest))
      (risingRun less last reversed rest) := by
  induction rest generalizing last reversed with
  | nil => exact ⟨rfl, h⟩
  | cons x rest ih =>
    obtain ⟨hx, hrest⟩ := List.cons_subset.1 hrest
    have hlast := h.subset List.mem_cons_self
    rw [risingRun]
    refine (comparesOnly_less hx hlast).bind fun below hless _ => ?_
    have hcons := h.cons hr hx ⟨last, List.mem_cons_self, hr.of_less hless⟩
    split
    · exact ⟨rfl, h⟩
    · refine (ih hrest hcons).mono fun taken ht => ⟨?_, ht.2⟩
      grind [Takes]

/-- The run at the front takes values that are akin. -/
theorem compares_frontRun (hr : Kinship less r) {items : List α} (hitems : items ⊆ members)
    (hne : items ≠ []) :
    Compares less members (Takes r members (values items)) (frontRun less items) := by
  match items with
  | [x] => exact ⟨rfl, akin_singleton (hitems List.mem_cons_self)⟩
  | x :: y :: rest =>
    obtain ⟨hx, hitems⟩ := List.cons_subset.1 hitems
    obtain ⟨hy, hrest⟩ := List.cons_subset.1 hitems
    rw [frontRun]
    refine (comparesOnly_less hy hx).bind fun below hless _ => ?_
    have hcons : Akin r members [y, x] :=
      (akin_singleton hx).cons hr hy ⟨x, List.mem_singleton_self x, hr.of_less hless⟩
    have hvalues : values [y, x] + values rest = values (x :: y :: rest) := by grind
    split
    · exact hvalues ▸ compares_fallingRun hr hrest hcons
    · refine (compares_risingRun hr hrest hcons).bind fun taken _ ht => ?_
      obtain ⟨reversed, rest'⟩ := taken
      refine ⟨?_, ht.2.of_values hr (values_reverse reversed)⟩
      exact (congrArg (· + values rest') (values_reverse reversed)).trans (ht.1.trans hvalues)

/-- Putting values into a run keeps the values and keeps them akin. -/
theorem compares_insertAll (hr : Kinship less r) {run rest : List α} (hrest : rest ⊆ members)
    (h : Akin r members run) :
    Compares less members (fun longer => values longer = values run + values rest ∧
      Akin r members longer) (insertAll less run rest) := by
  induction rest generalizing run with
  | nil => exact ⟨by simp, h⟩
  | cons x rest ih =>
    obtain ⟨hx, hrest⟩ := List.cons_subset.1 hrest
    rw [insertAll]
    refine (compares_place hr h.subset hx).bind fun n _ hcompared => ?_
    have hcut := values_take_add_drop n run
    have hput : values (run.take n ++ x :: run.drop n) = values (x :: run) := by grind
    have hcons := h.cons hr hx (hcompared.resolve_left h.ne_nil)
    refine (ih hrest (hcons.of_values hr hput)).mono fun longer hlonger => ⟨?_, hlonger.2⟩
    rw [hlonger.1, hput]
    grind

/-- A run from the front of a list is of one kin. -/
theorem compares_takeRun (hr : Kinship less r) {items : List α} (hitems : items ⊆ members)
    (hne : items ≠ []) (least : Nat) :
    Compares less members (Takes r members (values items)) (takeRun less least items) := by
  rw [takeRun]
  refine (compares_frontRun hr hitems hne).bind fun taken _ htaken => ?_
  obtain ⟨run, rest⟩ := taken
  have hrest : rest ⊆ members := htaken.rest_subset hitems
  obtain ⟨hvalues, hrun⟩ := htaken
  have hcut := values_take_add_drop (least - run.length) rest
  refine (compares_insertAll hr (List.Subset.trans (List.take_subset _ rest) hrest) hrun).bind
    fun longer _ hlonger => ⟨?_, hlonger.2⟩
  grind

/-! ## Pending runs -/

/-- The values of some runs. -/
def heldValues (runs : List (Run α)) : Multiset α := (runs.map fun run => values run.items).sum

@[simp, grind =] theorem heldValues_nil : heldValues ([] : List (Run α)) = 0 := rfl

/-- The values of some runs are those of the first one and those of the others. -/
@[simp, grind =] theorem heldValues_cons (run : Run α) (runs : List (Run α)) :
    heldValues (run :: runs) = values run.items + heldValues runs := by
  simp [heldValues]

/-- Runs each of which is of one kin, and which hold some values. -/
def Holds (r : α → α → Prop) (members : List α) (all : Multiset α) (runs : List (Run α)) : Prop :=
  heldValues runs = all ∧ ∀ run ∈ runs, Akin r members run.items

/-- Two runs of one kin each are merged to one run of one kin. -/
theorem Akin.compares_mergeRuns (hr : Kinship less r) {xs ys : List α} (hxs : Akin r members xs)
    (hys : Akin r members ys) (patience : Nat) :
    Compares less members
      (fun merged => values merged.1 = values xs + values ys ∧ Akin r members merged.1)
      (mergeRuns less patience xs ys) := by
  refine (Sorting.compares_mergeRuns hr hxs.subset hys.subset patience).mono fun merged hmerged =>
    ?_
  obtain ⟨hvalues, hcompared⟩ := hmerged
  have hakin := (hcompared.resolve_left hxs.ne_nil).resolve_left hys.ne_nil
  have hvalues : values merged.1 = values xs + values ys := by grind [Merges]
  exact ⟨hvalues, (hxs.append hr hys hakin).of_values hr hvalues⟩

/-- Merging pending runs keeps their values and keeps each of one kin. -/
theorem compares_mergeDeeper (hr : Kinship less r) (depth fuel : Nat) {pending : Pending α}
    {all : Multiset α} (h : Holds r members all pending.runs) :
    Compares less members (fun merged => Holds r members all merged.runs)
      (mergeDeeper less depth fuel pending) := by
  induction fuel generalizing pending with
  | zero => exact h
  | succ fuel ih =>
    obtain ⟨runs, patience⟩ := pending
    match runs with
    | [] => exact h
    | [_] => exact h
    | last :: before :: runs =>
      obtain ⟨hheld, hakin⟩ := h
      simp only [List.forall_mem_cons] at hakin
      rw [mergeDeeper]
      split
      · refine (hakin.2.1.compares_mergeRuns hr hakin.1 patience).bind
          fun merged _ hmerged => ih ⟨?_, ?_⟩
        · grind
        · exact List.forall_mem_cons.2 ⟨hmerged.2, hakin.2.2⟩
      · exact ⟨hheld, by simpa using hakin⟩

/-- A new run adds its values to those of the pending runs, each of one kin. -/
theorem compares_push (hr : Kinship less r) (count : Nat) {pending : Pending α} {all : Multiset α}
    (h : Holds r members all pending.runs) {items : List α} (hitems : Akin r members items) :
    Compares less members (fun pushed => Holds r members (all + values items) pushed.runs)
      (pending.push less count items) := by
  obtain ⟨runs, patience⟩ := pending
  cases runs with
  | nil => exact ⟨by grind [Holds], by simpa using hitems⟩
  | cons last rest =>
    rw [Pending.push]
    refine (compares_mergeDeeper hr _ _ h).bind fun merged _ hmerged => ?_
    obtain ⟨runs, patience⟩ := merged
    obtain ⟨hheld, hakin⟩ := hmerged
    cases runs with
    | nil => exact ⟨by grind, by simpa using hitems⟩
    | cons last rest => exact ⟨by grind, by simpa using ⟨hitems, by simpa using hakin⟩⟩

/-- Cutting a list into runs keeps its values. -/
theorem compares_cutRuns (hr : Kinship less r) (count fuel : Nat) {pending : Pending α}
    {all : Multiset α} (h : Holds r members all pending.runs) {items : List α}
    (hitems : items ⊆ members) (hfuel : items.length ≤ fuel) :
    Compares less members (fun cut => Holds r members (all + values items) cut.runs)
      (cutRuns less count fuel pending items) := by
  induction fuel generalizing pending all items with
  | zero =>
    cases List.length_eq_zero_iff.1 (Nat.le_zero.1 hfuel)
    simpa [cutRuns, Compares] using h
  | succ fuel ih =>
    cases items with
    | nil => simpa [cutRuns, Compares] using h
    | cons x items =>
      rw [cutRuns]
      · refine (compares_takeRun hr hitems (List.cons_ne_nil x items) _).bind
          fun taken _ htaken => ?_
        obtain ⟨run, rest⟩ := taken
        have hrest : rest ⊆ members := htaken.rest_subset hitems
        obtain ⟨hvalues, hrun⟩ := htaken
        refine (compares_push hr count h hrun).bind fun pushed _ hpushed => ?_
        have hlength : run.length + rest.length = items.length + 1 := by
          simpa [values] using congrArg Multiset.card hvalues
        have hpositive : 0 < run.length := List.length_pos_iff.2 hrun.ne_nil
        refine (ih hpushed hrest (by simp at hfuel; omega)).mono fun cut hcut => ?_
        rwa [← hvalues, ← add_assoc]
      · simp

/-- Merging all runs keeps their values. -/
theorem compares_mergeAll (hr : Kinship less r) (fuel : Nat) {pending : Pending α}
    {all : Multiset α}
    (h : Holds r members all pending.runs) (hfuel : pending.runs.length ≤ fuel + 1) :
    Compares less members (fun out => values out = all ∧ out.Pairwise r)
      (mergeAll less fuel pending) := by
  induction fuel generalizing pending with
  | zero =>
    obtain ⟨runs, patience⟩ := pending
    match runs with
    | [] => exact ⟨h.1, .nil⟩
    | [run] => exact ⟨by grind [Holds], (h.2 run (List.mem_singleton_self run)).pairwise⟩
  | succ fuel ih =>
    obtain ⟨runs, patience⟩ := pending
    obtain ⟨hheld, hakin⟩ := h
    match runs with
    | [] => exact ⟨hheld, .nil⟩
    | [run] => exact ⟨by grind, (hakin run (List.mem_singleton_self run)).pairwise⟩
    | [last, before] =>
      simp only [List.forall_mem_cons] at hakin
      rw [mergeAll]
      refine (hakin.2.1.compares_mergeRuns hr hakin.1 patience).bind
        fun merged _ hmerged => ih ⟨by grind, by simpa using hmerged.2⟩ ?_
      simp
    | last :: middle :: before :: runs =>
      simp only [List.forall_mem_cons] at hakin
      obtain ⟨hlast, hmiddle, hbefore, hruns⟩ := hakin
      rw [mergeAll]
      split
      · refine (hbefore.compares_mergeRuns hr hmiddle patience).bind
          fun merged _ hmerged => ih ⟨by grind, ?_⟩ ?_
        · simpa using ⟨hlast, hmerged.2, hruns⟩
        · simpa using hfuel
      · refine (hmiddle.compares_mergeRuns hr hlast patience).bind
          fun merged _ hmerged => ih ⟨by grind, ?_⟩ ?_
        · simpa using ⟨hmerged.2, hbefore, hruns⟩
        · simpa using hfuel

/-- A list that can be sorted is of one kin, and sorting loses nothing of it; sorting fails only as
a comparison of two of its values fails. -/
theorem compares_sort (hr : Kinship less r) (items : List α) :
    Compares less items (fun out => out.Perm items ∧ out.Pairwise r) (sort less items) := by
  rw [sort]
  have hnone : Holds r items 0 ([] : List (Run α)) := ⟨rfl, by simp⟩
  refine (compares_cutRuns hr items.length items.length hnone (List.Subset.refl items) le_rfl).bind
    fun pending _ hpending => ?_
  refine (compares_mergeAll hr _ hpending (Nat.le_succ _)).mono fun out hout => ?_
  exact ⟨perm_of_values (by simpa using hout.1), hout.2⟩

end PackageBuild.Sorting
