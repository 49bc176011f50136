import Mathlib.Algebra.Order.Group.Multiset
import Mathlib.Tactic.Abel
import PackageBuild.Proofs.Sorting.Search

/-!
# What merging keeps

However two runs are merged, one value at a time or by strides, from the front or from the back, the
merged run has the values of both.  The first value of the second run is compared with one of the
first run before anything is moved.

Main results:

- Theorems `merger_front` and `merger_back`: merging from both ends.
- Theorem `compares_mergeRuns`: a merged run has the values of both, and one value of each was
  compared.
-/

namespace PackageBuild.Sorting

variable {α ε : Type} {less : α → α → Except ε Bool} {members : List α}

/-! ## Values of lists -/

/-- The values of a list, in whatever order. -/
def values (l : List α) : Multiset α := l

@[simp, grind =] theorem values_nil : values ([] : List α) = 0 := rfl

@[simp, grind =] theorem values_cons (x : α) (l : List α) : values (x :: l) = {x} + values l := rfl

/-- The values of two lists together are those of both. -/
@[simp, grind =] theorem values_append (l m : List α) : values (l ++ m) = values l + values m := rfl

/-- Turning a list round keeps its values. -/
@[simp, grind =] theorem values_reverse (l : List α) : values l.reverse = values l :=
  Multiset.coe_reverse l

/-- Cutting a list loses nothing. -/
theorem values_take_add_drop (n : Nat) (l : List α) :
    values (l.take n) + values (l.drop n) = values l := by
  rw [← values_append, List.take_append_drop]

/-- What two runs are merged to, with what was merged before them. -/
def Merges (out xs ys : List α) (merged : Merged α) : Prop :=
  values merged.1 = values out + values xs + values ys

/-- A merge that was made has the values of all its parts. -/
theorem compares_merges {out xs ys : List α} {merged : Merged α}
    (h : values merged.1 = values out + values xs + values ys) :
    Compares less members (Merges out xs ys) (.ok merged) := h

/-- A value that was moved to what is merged still counts as one of its run. -/
theorem Merges.first {x : α} {out xs ys : List α} {merged : Merged α}
    (h : Merges (x :: out) xs ys merged) : Merges out (x :: xs) ys merged := by
  refine Eq.trans h ?_
  rw [values_cons, values_cons]
  abel

/-- A value in front of the output may be counted with the second run instead. -/
theorem Merges.second {y : α} {out xs ys : List α} {merged : Merged α}
    (h : Merges (y :: out) xs ys merged) : Merges out xs (y :: ys) merged := by
  refine Eq.trans h ?_
  rw [values_cons, values_cons]
  abel

/-- The values of two strides were moved, and behind each of them the first value of the other run.
-/
theorem Merges.strides {x y : α} {out first rest second later xs ys : List α} {merged : Merged α}
    (h : Merges (x :: (second.reverse ++ y :: (first.reverse ++ out))) rest later merged)
    (hxs : values first + values (x :: rest) = values xs)
    (hys : values second + values later = values ys) : Merges out xs (y :: ys) merged := by
  refine Eq.trans h ?_
  rw [values_cons y ys, ← hxs, ← hys]
  simp only [values_cons, values_append, values_reverse]
  abel

/-- A way of merging two runs beside what was merged before them, which keeps all values. -/
def Merger (less : α → α → Except ε Bool) (members : List α)
    (merge : List α → List α → List α → Except ε (Merged α)) : Prop :=
  ∀ out xs ys, xs ⊆ members → ys ⊆ members → Compares less members (Merges out xs ys)
    (merge out xs ys)

/-! ## From the front -/

section Front

/-- What is left of both runs goes over behind the output. -/
theorem merges_front (patience : Nat) (out xs ys : List α) :
    Merges out xs ys (out.reverse ++ xs ++ ys, patience) := by
  simp only [Merges, values_append, values_reverse]

variable {fuel : Nat}
  (hone : ∀ patience firstWins secondWins,
    Merger less members (frontByOne less fuel patience firstWins secondWins))
  (hstride : ∀ patience, Merger less members (frontByStride less fuel patience))

include hone hstride

/-- Merging from the front value by value keeps all values, step by step. -/
theorem merger_frontByOne_succ (patience firstWins secondWins : Nat) :
    Merger less members (frontByOne less (fuel + 1) patience firstWins secondWins) := by
  intro out xs ys hxs hys
  cases xs with
  | nil => exact merges_front patience out [] ys
  | cons x xs =>
    cases ys with
    | nil => exact merges_front patience out (x :: xs) []
    | cons y ys =>
      obtain ⟨hx, hxs'⟩ := List.cons_subset.1 hxs
      obtain ⟨hy, hys'⟩ := List.cons_subset.1 hys
      rw [frontByOne]
      refine (comparesOnly_less hy hx).bind fun below _ _ => ?_
      split
      · split
        · next hempty =>
          cases List.isEmpty_iff.1 hempty
          refine compares_merges ?_
          simp only [values_append, values_cons, values_reverse, values_nil]
          abel
        · split
          · exact (hstride _ _ _ _ hxs hys').mono fun _ => Merges.second
          · exact (hone _ _ _ _ _ _ hxs hys').mono fun _ => Merges.second
      · split
        · refine compares_merges ?_
          simp only [values_append, values_cons, values_reverse]
          abel
        · split
          · exact (hstride _ _ _ _ hxs' hys).mono fun _ => Merges.first
          · exact (hone _ _ _ _ _ _ hxs' hys).mono fun _ => Merges.first

/-- Merging from the front by strides keeps all values, step by step. -/
theorem merger_frontByStride_succ (patience : Nat) :
    Merger less members (frontByStride less (fuel + 1) patience) := by
  intro out xs ys hxs hys
  cases ys with
  | nil => exact merges_front patience out xs []
  | cons y ys =>
    obtain ⟨hy, hys'⟩ := List.cons_subset.1 hys
    rw [frontByStride]
    refine (comparesOnly_countNotAbove hxs hy 0).bind fun first _ _ => ?_
    have hcut := values_take_add_drop first xs
    dsimp only
    split
    · next hdrop =>
      refine compares_merges ?_
      rw [← hcut, hdrop]
      simp only [values_append, values_cons, values_reverse, values_nil]
      abel
    · next x rest hdrop =>
      have hleft : x :: rest ⊆ members := hdrop ▸ List.Subset.trans (List.drop_subset first xs) hxs
      obtain ⟨hx, hrest⟩ := List.cons_subset.1 hleft
      rw [hdrop] at hcut
      split
      · next hlast =>
        cases List.isEmpty_iff.1 hlast.2
        refine compares_merges ?_
        rw [← hcut]
        simp only [values_append, values_cons, values_reverse]
        abel
      split
      · next hempty =>
        cases List.isEmpty_iff.1 hempty
        refine compares_merges ?_
        rw [← hcut]
        simp only [values_append, values_cons, values_reverse]
        abel
      refine (comparesOnly_countBelow hys' hx 0).bind fun second _ _ => ?_
      have hcut' := values_take_add_drop second ys
      have hsubset : ys.drop second ⊆ members := List.Subset.trans (List.drop_subset second ys) hys'
      split
      · next hempty =>
        refine Merges.strides ?_ hcut hcut'
        simp only [Merges, List.isEmpty_iff.1 hempty, values_append, values_cons, values_reverse,
          values_nil]
        abel
      split
      · refine Merges.strides ?_ hcut hcut'
        simp only [Merges, values_append, values_cons, values_reverse]
        abel
      split
      · exact (hstride _ _ _ _ hrest hsubset).mono fun _ h => h.strides hcut hcut'
      · exact (hone _ _ _ _ _ _ hrest hsubset).mono fun _ h => h.strides hcut hcut'

end Front

/-- Merging from the front keeps the values. -/
theorem merger_front (fuel : Nat) :
    (∀ patience firstWins secondWins,
      Merger less members (frontByOne less fuel patience firstWins secondWins)) ∧
    ∀ patience, Merger less members (frontByStride less fuel patience) := by
  induction fuel with
  | zero =>
    refine ⟨fun patience _ _ out xs ys _ _ => ?_, fun patience out xs ys _ _ => ?_⟩
    · rw [frontByOne]
      · exact merges_front patience out xs ys
      · simp
    · rw [frontByStride]
      · exact merges_front patience out xs ys
      · simp
  | succ fuel ih => exact ⟨merger_frontByOne_succ ih.1 ih.2, merger_frontByStride_succ ih.1 ih.2⟩

/-! ## From the back -/

section Back

/-- What is left of both runs goes over in front of the output. -/
theorem merges_back (patience : Nat) (out xs ys : List α) :
    Merges out xs ys (xs.reverse ++ ys.reverse ++ out, patience) := by
  simp only [Merges, values_append, values_reverse]
  abel

variable {fuel : Nat}
  (hone : ∀ patience firstWins secondWins, Merger less members fun out xs ys =>
    backByOne less fuel patience firstWins secondWins xs ys out)
  (hstride : ∀ patience, Merger less members fun out xs ys =>
    backByStride less fuel patience xs ys out)

include hone hstride

/-- Merging from the back value by value keeps all values, step by step. -/
theorem merger_backByOne_succ (patience firstWins secondWins : Nat) :
    Merger less members fun out xs ys =>
      backByOne less (fuel + 1) patience firstWins secondWins xs ys out := by
  intro out xs ys hxs hys
  cases xs with
  | nil => exact merges_back patience out [] ys
  | cons x xs =>
    cases ys with
    | nil => exact merges_back patience out (x :: xs) []
    | cons y ys =>
      obtain ⟨hx, hxs'⟩ := List.cons_subset.1 hxs
      obtain ⟨hy, hys'⟩ := List.cons_subset.1 hys
      dsimp only
      rw [backByOne]
      refine (comparesOnly_less hy hx).bind fun below _ _ => ?_
      split
      · split
        · next hempty =>
          cases List.isEmpty_iff.1 hempty
          refine compares_merges ?_
          simp only [values_append, values_cons, values_reverse, values_nil]
          abel
        · split
          · exact (hstride _ _ _ _ hxs' hys).mono fun _ => Merges.first
          · exact (hone _ _ _ _ _ _ hxs' hys).mono fun _ => Merges.first
      · split
        · refine compares_merges ?_
          simp only [values_append, values_cons, values_reverse]
          abel
        · split
          · exact (hstride _ _ _ _ hxs hys').mono fun _ => Merges.second
          · exact (hone _ _ _ _ _ _ hxs hys').mono fun _ => Merges.second

/-- Merging from the back by strides keeps all values, step by step. -/
theorem merger_backByStride_succ (patience : Nat) :
    Merger less members fun out xs ys => backByStride less (fuel + 1) patience xs ys out := by
  intro out xs ys hxs hys
  cases ys with
  | nil => exact merges_back patience out xs []
  | cons y ys =>
    obtain ⟨hy, hys'⟩ := List.cons_subset.1 hys
    have hback : xs.reverse ⊆ members := List.reverse_subset.2 hxs
    have hback' : ys.reverse ⊆ members := List.reverse_subset.2 hys'
    dsimp only
    rw [backByStride]
    refine (comparesOnly_countNotAbove hback hy _).bind fun kept _ _ => ?_
    have hcut := values_take_add_drop (xs.length - kept) xs
    dsimp only
    split
    · next hdrop =>
      refine compares_merges ?_
      rw [← hcut, hdrop]
      simp only [values_append, values_cons, values_reverse, values_nil]
      abel
    · next x rest hdrop =>
      have hleft : x :: rest ⊆ members :=
        hdrop ▸ List.Subset.trans (List.drop_subset (xs.length - kept) xs) hxs
      obtain ⟨hx, hrest⟩ := List.cons_subset.1 hleft
      rw [hdrop] at hcut
      split
      · refine compares_merges ?_
        rw [← hcut]
        simp only [values_append, values_cons, values_reverse]
        abel
      refine (comparesOnly_countBelow hback' hx _).bind fun kept' _ _ => ?_
      have hcut' := values_take_add_drop (ys.length - kept') ys
      have hsubset : ys.drop (ys.length - kept') ⊆ members :=
        List.Subset.trans (List.drop_subset _ ys) hys'
      split
      · refine Merges.strides ?_ hcut hcut'
        simp only [Merges, values_append, values_cons, values_reverse]
        abel
      split
      · next hempty =>
        cases List.isEmpty_iff.1 hempty
        refine Merges.strides ?_ hcut hcut'
        simp only [Merges, values_append, values_cons, values_reverse, values_nil]
        abel
      split
      · exact (hstride _ _ _ _ hrest hsubset).mono fun _ h => h.strides hcut hcut'
      · exact (hone _ _ _ _ _ _ hrest hsubset).mono fun _ h => h.strides hcut hcut'

end Back

/-- Merging from the back keeps the values. -/
theorem merger_back (fuel : Nat) :
    (∀ patience firstWins secondWins, Merger less members fun out xs ys =>
      backByOne less fuel patience firstWins secondWins xs ys out) ∧
    ∀ patience, Merger less members fun out xs ys => backByStride less fuel patience xs ys out := by
  induction fuel with
  | zero =>
    refine ⟨fun patience _ _ out xs ys _ _ => ?_, fun patience out xs ys _ _ => ?_⟩
    · dsimp only
      rw [backByOne]
      · exact merges_back patience out xs ys
      · simp
    · dsimp only
      rw [backByStride]
      · exact merges_back patience out xs ys
      · simp
  | succ fuel ih => exact ⟨merger_backByOne_succ ih.1 ih.2, merger_backByStride_succ ih.1 ih.2⟩

/-! ## Whole runs -/

variable {r : α → α → Prop} {xs ys : List α}

/-- Merging from the front compares members only and keeps all values. -/
theorem compares_mergeFront (hxs : xs ⊆ members) (hys : ys ⊆ members) (patience : Nat) :
    Compares less members (Merges [] xs ys) (mergeFront less patience xs ys) := by
  cases ys with
  | nil => grind [Compares, Merges, mergeFront]
  | cons y rest =>
    rw [mergeFront]
    split
    · next hempty =>
      cases List.isEmpty_iff.1 hempty
      grind [Compares, Merges]
    split
    · grind [Compares, Merges]
    · refine ((merger_front _).1 _ _ _ _ _ _ hxs (List.cons_subset.1 hys).2).mono ?_
      grind [Merges]

/-- Merging from the back compares members only and keeps all values. -/
theorem compares_mergeBack (hxs : xs ⊆ members) (hys : ys ⊆ members) (patience : Nat) :
    Compares less members (Merges [] xs ys) (mergeBack less patience xs ys) := by
  have hvalues := values_reverse xs
  have hback : xs.reverse ⊆ members := List.reverse_subset.2 hxs
  rw [mergeBack]
  split
  · next hreverse =>
    rw [hreverse] at hvalues
    grind [Compares, Merges]
  · next x rest hreverse =>
    rw [hreverse] at hvalues hback
    split
    · next hempty =>
      cases List.isEmpty_iff.1 hempty
      grind [Compares, Merges]
    split
    · grind [Compares, Merges]
    · refine ((merger_back _).1 _ _ _ _ _ _ (List.cons_subset.1 hback).2
        (List.reverse_subset.2 hys)).mono ?_
      grind [Merges]

/-- A merged run has the values of both runs, and a value of each was compared. -/
theorem compares_mergeRuns (hr : Kinship less r) (hxs : xs ⊆ members) (hys : ys ⊆ members)
    (patience : Nat) :
    Compares less members (fun merged => Merges [] xs ys merged ∧
      (xs = [] ∨ ys = [] ∨ ∃ x ∈ xs, ∃ y ∈ ys, r x y)) (mergeRuns less patience xs ys) := by
  cases ys with
  | nil => exact ⟨by grind [Merges], .inr (.inl rfl)⟩
  | cons y rest =>
    have hy := (List.cons_subset.1 hys).1
    rw [mergeRuns]
    refine (compares_countNotAbove hr hxs hy (Nat.zero_le _)).bind fun front _ hcompared => ?_
    have hakin : xs = [] ∨ y :: rest = [] ∨ ∃ x ∈ xs, ∃ y' ∈ y :: rest, r x y' := by
      refine hcompared.imp_right fun ⟨x, hx, hyx⟩ => .inr ?_
      exact ⟨x, hx, y, List.mem_cons_self, hr.symm hyx⟩
    have hcut := values_take_add_drop front xs
    have hxs' : xs.drop front ⊆ members := List.Subset.trans (List.drop_subset front xs) hxs
    split
    · exact ⟨by grind [Merges], hakin⟩
    · next x hlast =>
      have hx : x ∈ members := hxs' (List.mem_of_getLast? hlast)
      refine (comparesOnly_countBelow hys hx _).bind fun count _ _ => ?_
      have hcut' := values_take_add_drop count (y :: rest)
      have hys' : (y :: rest).take count ⊆ members :=
        List.Subset.trans (List.take_subset count _) hys
      dsimp only
      split
      · exact ⟨by grind [Merges], hakin⟩
      split
      · refine (compares_mergeFront hxs' hys' patience).bind fun merged _ hvalues => ?_
        exact ⟨by grind [Merges], hakin⟩
      · refine (compares_mergeBack hxs' hys' patience).bind fun merged _ hvalues => ?_
        exact ⟨by grind [Merges], hakin⟩

end PackageBuild.Sorting
