import Mathlib.Data.List.Basic
import PackageBuild.Sorting

/-!
# What sorting compares

Sorting compares values of its list only, so that it can only fail as one of these comparisons
fails. A value whose place in a run is looked for is compared with a value of the run.

Main results:

- Theorem `Compares.bind`: an attempt that compares members, and what follows it.
- Theorem `compares_gallop`: a search by strides begins at the place of its hint.
- Theorems `compares_countNotAbove` and `compares_place`: a value whose place in a run is found is
  akin to a value of the run.
-/

namespace PackageBuild.Sorting

variable {α β γ ε : Type} {less : α → α → Except ε Bool} {members : List α}

/-- An attempt that compares members only: its result has a property, and it fails only as the
comparison of two members fails. -/
def Compares (less : α → α → Except ε Bool) (members : List α) (post : β → Prop) : Except ε β → Prop
  | .ok b => post b
  | .error e => ∃ x ∈ members, ∃ y ∈ members, less x y = .error e

/-- A result may be known for less. -/
theorem Compares.mono {post post' : β → Prop} {result : Except ε β}
    (h : Compares less members post result)
    (hpost : ∀ b, post b → post' b) : Compares less members post' result := by
  cases result with
  | ok b => exact hpost b h
  | error e => exact h

/-- What follows an attempt that compares members. -/
theorem Compares.bind {post : β → Prop} {post' : γ → Prop} {result : Except ε β}
    {next : β → Except ε γ} (h : Compares less members post result)
    (hnext : ∀ b, result = .ok b → post b → Compares less members post' (next b)) :
    Compares less members post' (result >>= next) := by
  cases result with
  | ok b => exact hnext b rfl h
  | error e => exact h

/-- What is made of a result needs no comparison. -/
theorem Compares.map {post : γ → Prop} {result : Except ε β} {f : β → γ}
    (h : Compares less members (fun b => post (f b)) result) :
    Compares less members post (result.map f) := by
  cases result with
  | ok b => exact h
  | error e => exact h

/-- An attempt that compares members only, whatever its result. -/
abbrev ComparesOnly (less : α → α → Except ε Bool) (members : List α) (result : Except ε β) :
    Prop :=
  Compares less members (fun _ => True) result

/-- Comparing two members compares members only. -/
theorem comparesOnly_less {x y : α} (hx : x ∈ members) (hy : y ∈ members) :
    ComparesOnly less members (less x y) := by
  cases h : less x y with
  | ok b => trivial
  | error e => exact ⟨x, hx, y, hy, h⟩

/-! ## Places in a run -/

section Places

variable {passes : Nat → Except ε Bool}

/-- Halving compares as its passes do. -/
theorem comparesOnly_narrow (h : ∀ place, ComparesOnly less members (passes place))
    (fuel low high : Nat) : ComparesOnly less members (narrow passes fuel low high) := by
  induction fuel generalizing low high with
  | zero => trivial
  | succ fuel ih =>
    unfold narrow
    split
    · refine (h _).bind fun passed _ _ => ?_
      split
      · exact ih _ _
      · exact ih _ _
    · trivial

/-- Striding compares as its passes do. -/
theorem comparesOnly_stride (h : ∀ place, ComparesOnly less members (passes place))
    (bound fuel last next : Nat) :
    ComparesOnly less members (stride passes bound fuel last next) := by
  induction fuel generalizing last next with
  | zero => trivial
  | succ fuel ih =>
    unfold stride
    split
    · refine (h _).bind fun passed _ _ => ?_
      split
      · exact ih _ _
      · trivial
    · trivial

/-- A search by strides begins at the place of its hint. -/
theorem compares_gallop (h : ∀ place, ComparesOnly less members (passes place)) (count hint : Nat) :
    Compares less members (fun _ => ∃ passed, passes hint = .ok passed)
      (gallop passes count hint) := by
  unfold gallop
  refine (h hint).bind fun passed hpassed _ => ?_
  split
  · refine (comparesOnly_stride (fun place => h (hint + place)) _ _ _ _).bind fun found _ _ => ?_
    exact (comparesOnly_narrow h _ _ _).mono fun _ _ => ⟨passed, hpassed⟩
  · refine (comparesOnly_stride (fun place => (h (hint - place)).map) _ _ _ _).bind fun found _ _ =>
      ?_
    exact (comparesOnly_narrow h _ _ _).mono fun _ _ => ⟨passed, hpassed⟩

end Places

/-! ## Kin -/

/-- Values that can be compared are akin. -/
structure Kinship (less : α → α → Except ε Bool) (r : α → α → Prop) : Prop where
  of_less : ∀ {x y : α} {b : Bool}, less x y = .ok b → r x y
  symm : ∀ {x y : α}, r x y → r y x
  trans : ∀ {x y z : α}, r x y → r y z → r x z

variable {r : α → α → Prop} {run : List α} {x : α}

/-- A place is passed by comparing members. -/
theorem comparesOnly_isNotAbove (hrun : run ⊆ members) (hx : x ∈ members) (place : Nat) :
    ComparesOnly less members (isNotAbove less run x place) := by
  unfold isNotAbove
  split
  · next y hy => exact (comparesOnly_less hx (hrun (List.mem_of_getElem? hy))).map
  · trivial

/-- What is compared at a place of a run is akin to the value there. -/
theorem Kinship.of_isNotAbove (hr : Kinship less r) {place : Nat} (hplace : place < run.length)
    {passed : Bool} (h : isNotAbove less run x place = .ok passed) : ∃ y ∈ run, r x y := by
  rw [isNotAbove, List.getElem?_eq_getElem hplace] at h
  refine ⟨run[place], List.getElem_mem hplace, ?_⟩
  cases hless : less x run[place] with
  | ok b => exact hr.of_less hless
  | error e =>
    simp only [hless] at h
    contradiction

/-- A value whose place in a run is found by strides is akin to a value of the run. -/
theorem compares_countNotAbove (hr : Kinship less r) (hrun : run ⊆ members) (hx : x ∈ members)
    {hint : Nat} (hhint : hint ≤ run.length - 1) :
    Compares less members (fun _ => run = [] ∨ ∃ y ∈ run, r x y)
      (countNotAbove less run x hint) := by
  cases run with
  | nil => exact .inl rfl
  | cons y rest =>
    refine (compares_gallop (comparesOnly_isNotAbove hrun hx) _ hint).mono
      fun _ ⟨passed, hpassed⟩ => .inr ?_
    exact hr.of_isNotAbove (Nat.lt_succ_of_le hhint) hpassed

/-- Counting the values that are not above a member compares members only. -/
theorem comparesOnly_countNotAbove (hrun : run ⊆ members) (hx : x ∈ members) (hint : Nat) :
    ComparesOnly less members (countNotAbove less run x hint) := by
  unfold countNotAbove
  split
  · trivial
  · exact (compares_gallop (comparesOnly_isNotAbove hrun hx) _ hint).mono fun _ _ => trivial

/-- Counting the values below a member compares members only. -/
theorem comparesOnly_countBelow (hrun : run ⊆ members) (hx : x ∈ members) (hint : Nat) :
    ComparesOnly less members (countBelow less run x hint) := by
  have htest (place : Nat) : ComparesOnly less members (isBelow less run x place) := by
    unfold isBelow
    split
    · next y hy => exact comparesOnly_less (hrun (List.mem_of_getElem? hy)) hx
    · trivial
  unfold countBelow
  split
  · trivial
  · exact (compares_gallop htest _ hint).mono fun _ _ => trivial

/-- Halving compares with a value of the run as well. -/
theorem compares_place (hr : Kinship less r) (hrun : run ⊆ members) (hx : x ∈ members) :
    Compares less members (fun _ => run = [] ∨ ∃ y ∈ run, r x y) (place less run x) := by
  cases run with
  | nil => exact .inl rfl
  | cons y rest =>
    have htest (place : Nat) : ComparesOnly less members (isNotAbove less (y :: rest) x place) :=
      comparesOnly_isNotAbove hrun hx place
    rw [place, List.length_cons, narrow, if_pos (Nat.succ_pos _)]
    refine (htest _).bind fun passed hpassed _ => ?_
    have hakin : ∃ z ∈ y :: rest, r x z := by
      refine hr.of_isNotAbove ?_ hpassed
      simp only [List.length_cons]
      omega
    split
    · exact (comparesOnly_narrow htest _ _ _).mono fun _ _ => .inr hakin
    · exact (comparesOnly_narrow htest _ _ _).mono fun _ _ => .inr hakin

end PackageBuild.Sorting
