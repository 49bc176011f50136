import Mathlib.Data.List.Forall2
import Mathlib.Data.List.Perm.Basic

/-!
# Attempts

Laws of results that may be missing for a reason: when two attempts in a row succeed or fail, and
when the attempts at all items of a list do.

Main results:

- Theorems `bind_eq_ok_iff`, `map_eq_ok_iff` and `mapError_eq_ok_iff`: what success says of the
  parts.
- Theorems `bind_eq_error_iff` and `map_eq_error_iff`: what failure says of them.
- Theorem `mapM_eq_ok_iff`: all items succeed, each with its own result.
- Theorem `exists_of_mapM_eq_error`: all items fail together for the reason of one of them.
- Theorem `mapM_perm`: the order of the items matters for the order of the results only, when all
  that fail do so for one reason.
- Theorem `Related.bind`: what follows related attempts.
-/

namespace PackageBuild.Attempt

variable {ε ε' α β α' β' : Type}

/-- An attempt and what follows succeed when both do. -/
theorem bind_eq_ok_iff {x : Except ε α} {f : α → Except ε β} {b : β} :
    x >>= f = .ok b ↔ ∃ a, x = .ok a ∧ f a = .ok b := by
  cases x <;> simp [bind, Except.bind]

/-- What is made of a result comes from a result. -/
theorem map_eq_ok_iff {x : Except ε α} {f : α → β} {b : β} :
    x.map f = .ok b ↔ ∃ a, x = .ok a ∧ f a = b := by
  cases x <;> simp [Except.map]

/-- An attempt and what follows fail when the first one does or the second one after it. -/
theorem bind_eq_error_iff {x : Except ε α} {f : α → Except ε β} {e : ε} :
    x >>= f = .error e ↔ x = .error e ∨ ∃ a, x = .ok a ∧ f a = .error e := by
  cases x <;> simp [bind, Except.bind]

/-- Making something of a result fails as the attempt does. -/
theorem map_eq_error_iff {x : Except ε α} {f : α → β} {e : ε} :
    x.map f = .error e ↔ x = .error e := by
  cases x <;> simp [Except.map]

@[simp] theorem mapError_ok (f : ε → ε') (a : α) :
    (Except.ok a : Except ε α).mapError f = .ok a := rfl

@[simp] theorem mapError_error (f : ε → ε') (e : ε) :
    (Except.error e : Except ε α).mapError f = .error (f e) := rfl

/-- Changing the error keeps the results. -/
theorem mapError_eq_ok_iff {x : Except ε α} {f : ε → ε'} {a : α} :
    x.mapError f = .ok a ↔ x = .ok a := by
  cases x <;> simp

/-- The attempts at all items succeed when each does, and their results stand in the same order. -/
theorem mapM_eq_ok_iff {f : α → Except ε β} {l : List α} {results : List β} :
    l.mapM f = .ok results ↔ List.Forall₂ (fun a b => f a = .ok b) l results := by
  induction l generalizing results with
  | nil => simp [pure, Except.pure, eq_comm]
  | cons a l ih =>
    simp only [List.mapM_cons, bind_eq_ok_iff, ih, List.forall₂_cons_left_iff, pure, Except.pure,
      Except.ok.injEq]
    constructor
    · rintro ⟨b, hfirst, rest, hrest, rfl⟩
      exact ⟨b, rest, hfirst, hrest, rfl⟩
    · rintro ⟨b, rest, hfirst, hrest, rfl⟩
      exact ⟨b, hfirst, rest, hrest, rfl⟩

/-- When the results are given by a function, so are all of them together. -/
theorem mapM_eq_ok_map {f : α → Except ε β} {g : α → β} {l : List α}
    (h : ∀ a ∈ l, f a = .ok (g a)) : l.mapM f = .ok (l.map g) := by
  rw [mapM_eq_ok_iff, List.forall₂_map_right_iff, List.forall₂_same]
  exact h

/-- An item may be replaced by one that the attempt does not tell apart from it. -/
theorem mapM_replace {f : α → Except ε β} {a b : α} (h : f a = f b) (before after : List α) :
    (before ++ a :: after).mapM f = (before ++ b :: after).mapM f := by
  rw [List.mapM_append, List.mapM_append, List.mapM_cons, List.mapM_cons, h]

/-- Attempts that keep the names of their items. -/
theorem mapM_named {ν : Type} {f : α → Except ε β} (nameOf : α → ν) (l : List α) :
    l.mapM (fun a => (f a).map (nameOf a, ·)) = (l.mapM f).map (l.map nameOf).zip := by
  induction l with
  | nil => rfl
  | cons a l ih =>
    rw [List.mapM_cons, List.mapM_cons, ih]
    cases f a with
    | error e => rfl
    | ok b => cases l.mapM f <;> rfl

/-- When all items together succeed, each of them does. -/
theorem exists_of_mapM_eq_ok {f : α → Except ε β} {l : List α} {results : List β}
    (h : l.mapM f = .ok results) {a : α} (ha : a ∈ l) : ∃ b, f a = .ok b := by
  have hpairs := mapM_eq_ok_iff.1 h
  induction hpairs with
  | nil => contradiction
  | cons hfirst hrest ih =>
    rcases List.mem_cons.1 ha with rfl | ha
    · exact ⟨_, hfirst⟩
    · exact ih (mapM_eq_ok_iff.2 hrest) ha

/-- Each of the results together is the result of an item. -/
theorem exists_of_mem_mapM {f : α → Except ε β} {l : List α} {results : List β}
    (h : l.mapM f = .ok results) {b : β} (hb : b ∈ results) : ∃ a ∈ l, f a = .ok b := by
  have hpairs := mapM_eq_ok_iff.1 h
  induction hpairs with
  | nil => contradiction
  | cons hfirst hrest ih =>
    rcases List.mem_cons.1 hb with rfl | hb
    · exact ⟨_, List.mem_cons_self, hfirst⟩
    · obtain ⟨a, ha, hresult⟩ := ih (mapM_eq_ok_iff.2 hrest) hb
      exact ⟨a, List.mem_cons_of_mem _ ha, hresult⟩

/-- When the items together fail, one of them fails for the same reason. -/
theorem exists_of_mapM_eq_error {f : α → Except ε β} {l : List α} {e : ε}
    (h : l.mapM f = .error e) : ∃ a ∈ l, f a = .error e := by
  induction l with
  | nil => cases h
  | cons a l ih =>
    rw [List.mapM_cons, bind_eq_error_iff] at h
    rcases h with hfirst | ⟨b, -, hothers⟩
    · exact ⟨a, List.mem_cons_self, hfirst⟩
    · rcases bind_eq_error_iff.1 hothers with hrest | ⟨rest, -, hpure⟩
      · obtain ⟨other, hother, herror⟩ := ih hrest
        exact ⟨other, List.mem_cons_of_mem _ hother, herror⟩
      · cases hpure

/-- Two attempts that fail for the same reason, or that both succeed with related results. -/
inductive Related (r : α → β → Prop) : Except ε α → Except ε β → Prop
  | ok {a : α} {b : β} : r a b → Related r (.ok a) (.ok b)
  | error (e : ε) : Related r (.error e) (.error e)

/-- When all items that fail do so for one reason, the attempts at them in another order give the
same results in another order, or fail as well. -/
theorem mapM_perm {f : α → Except ε β} {l l' : List α} {fault : ε} (hperm : l.Perm l')
    (hfault : ∀ a ∈ l, ∀ e, f a = .error e → e = fault) :
    Related List.Perm (l.mapM f) (l'.mapM f) := by
  cases hl : l.mapM f with
  | ok results =>
    obtain ⟨others, hothers, hsame⟩ := List.perm_comp_forall₂ hperm.symm (mapM_eq_ok_iff.1 hl)
    rw [mapM_eq_ok_iff.2 hothers]
    exact .ok hsame.symm
  | error e =>
    obtain ⟨a, ha, herror⟩ := exists_of_mapM_eq_error hl
    cases hl' : l'.mapM f with
    | ok others =>
      obtain ⟨b, hb⟩ := exists_of_mapM_eq_ok hl' (hperm.mem_iff.1 ha)
      rw [herror] at hb
      contradiction
    | error e' =>
      obtain ⟨a', ha', herror'⟩ := exists_of_mapM_eq_error hl'
      rw [hfault a ha e herror, hfault a' (hperm.mem_iff.2 ha') e' herror']
      exact .error fault

/-- What follows related attempts is related, when it is so for related results. -/
theorem Related.bind {r : α → β → Prop} {r' : α' → β' → Prop} {x : Except ε α} {y : Except ε β}
    {f : α → Except ε α'} {g : β → Except ε β'} (h : Related r x y)
    (hf : ∀ a b, r a b → Related r' (f a) (g b)) : Related r' (x >>= f) (y >>= g) := by
  cases h with
  | ok h => exact hf _ _ h
  | error e => exact .error e

/-- What follows one attempt in two ways. -/
theorem Related.bind_same {r : α' → β' → Prop} {x : Except ε α} {f : α → Except ε α'}
    {g : α → Except ε β'} (hf : ∀ a, Related r (f a) (g a)) : Related r (x >>= f) (x >>= g) := by
  cases x with
  | ok a => exact hf a
  | error e => exact .error e

end PackageBuild.Attempt
