import PackageBuild.Proofs.OrderedMap
import PackageBuild.Classification.Basic

/-!
# Counting units

The units with each outcome can be counted in one pass over the outcomes.  All counts are zero at
first; every unit then raises the count of its outcome by one, which needs a count to be there.  It
always is, and the counts that are left are those of the classification.

Main results:

- Theorem `Tallies.raise`: what one unit does to the counts.
- Theorem `Tallies.foldlM_raise`: what many units do.
- Theorem `exists_tally`: counting never fails, and makes the counts.
-/

namespace PackageBuild.Classification

variable {m : OrderedMap Outcome Nat} {f : Outcome → Nat}

/-- The counts after one more unit with an outcome, which must be counted already. -/
def raise (m : OrderedMap Outcome Nat) (o : Outcome) : Except Trouble (OrderedMap Outcome Nat) :=
  match m.find? o with
  | none => .error (.lack (Value.member (.outcome o)).display)
  | some n => .ok (m.insert o (n + 1))

/-- The counts before any unit, in report order. -/
def zeroes : OrderedMap Outcome Nat := .ofList (Outcome.all.map fun o => (o, 0))

/-- The counts of a classification, unit by unit. -/
def tally (c : Classification) : Except Trouble (OrderedMap Outcome Nat) :=
  c.outcomes.values.foldlM raise zeroes

/-- A map counts every outcome, in report order. -/
structure Tallies (m : OrderedMap Outcome Nat) (f : Outcome → Nat) : Prop where
  keys_eq : m.keys = Outcome.all
  find?_eq : ∀ o, m.find? o = some (f o)

/-- At first every outcome is counted zero times. -/
theorem zeroes_tallies : Tallies zeroes fun _ => 0 where
  keys_eq := rfl
  find?_eq := by
    intro o
    cases o <;> rfl

/-- The entries of a tally are the outcomes with their counts, in order. -/
theorem Tallies.entries_eq (h : Tallies m f) : m.entries = Outcome.all.map fun o => (o, f o) := by
  rw [← h.keys_eq]
  exact OrderedMap.entries_eq_of_find? fun o _ => h.find?_eq o

/-- One more unit raises the count of its outcome. -/
theorem Tallies.raise (h : Tallies m f) (o : Outcome) :
    ∃ m', Classification.raise m o = .ok m' ∧
      Tallies m' fun other => if other = o then f o + 1 else f other := by
  have hcounted : m.contains o = true := OrderedMap.contains_iff.2 (h.keys_eq ▸ Outcome.mem_all o)
  refine ⟨m.insert o (f o + 1), ?_, ?_, ?_⟩
  · rw [Classification.raise, h.find?_eq]
  · rw [OrderedMap.keys_insert_of_contains _ hcounted, h.keys_eq]
  · intro other
    rw [OrderedMap.find?_insert, h.find?_eq]
    split <;> rfl

/-- More units raise each count by the number of those with the outcome. -/
theorem Tallies.foldlM_raise (h : Tallies m f) (os : List Outcome) :
    ∃ m', os.foldlM Classification.raise m = .ok m' ∧ Tallies m' fun o => f o + os.count o := by
  induction os generalizing m f with
  | nil => exact ⟨m, rfl, h⟩
  | cons o rest ih =>
    obtain ⟨m₁, hraise, h₁⟩ := h.raise o
    obtain ⟨m₂, hrest, h₂⟩ := ih h₁
    refine ⟨m₂, ?_, h₂.keys_eq, ?_⟩
    · rw [List.foldlM_cons, hraise]
      exact hrest
    · intro other
      rw [h₂.find?_eq]
      by_cases ho : other = o
      · rw [if_pos ho, ho, List.count_cons_self, Nat.add_assoc, Nat.add_comm 1]
      · rw [if_neg ho, List.count_cons_of_ne (Ne.symm ho)]

/-- The count of an outcome is how often it occurs. -/
theorem count_eq (c : Classification) (o : Outcome) : c.count o = c.outcomes.values.count o := by
  rw [count, List.count_eq_length_filter]
  rfl

/-- Counting never fails, and makes the counts in report order. -/
theorem exists_tally (c : Classification) : ∃ m, c.tally = .ok m ∧ m.entries = c.counts := by
  obtain ⟨m, hm, htallies⟩ := zeroes_tallies.foldlM_raise c.outcomes.values
  refine ⟨m, hm, ?_⟩
  rw [htallies.entries_eq, counts]
  simp only [count_eq, Nat.zero_add]

end PackageBuild.Classification
