import Mathlib.Data.List.TakeDrop
import PackageBuild.Json.Reader
import PackageBuild.Text.Decimal

/-!
# Integers read back

The text of an integer has no leading zeros and consists of digits behind a sign, so that the reader
of numbers takes all of it.  Beyond a number of characters, in which the sign counts, the reader
gives an integer that no record may hold.

Main results:

- Theorem `digitsValue_naturalDigits`: the digits of a number write it.
- Theorem `readNumber_naturalDigits`: the digits of a number are read back.
- Theorem `length_naturalDigits_pow`: how many digits a power of ten has.
-/

namespace PackageBuild.Json

open Number (spanDigits digitsValue)
open Text (naturalDigits integerDigits integerText)

/-! ## Digits -/

/-- A number is written in digits only. -/
theorem isDigit_of_mem_naturalDigits {n : Nat} {c : Char} (h : c ∈ naturalDigits n) :
    c.isDigit = true :=
  Nat.isDigit_of_mem_toDigits (by decide) (by decide) h

/-- The digits of a number write it. -/
theorem digitsValue_naturalDigits (n : Nat) : digitsValue (naturalDigits n) = n := by
  have hvalue : digitsValue (naturalDigits n) = Nat.ofDigitChars 10 (naturalDigits n) 0 := by
    rw [digitsValue, Text.Numeral.ofDigits, List.foldl_map]
    rfl
  rw [hvalue, naturalDigits, Nat.ofDigitChars_toDigits (by decide) (by decide)]

/-- A number that is not zero does not begin with a zero. -/
theorem head_naturalDigits {n : Nat} (h : 0 < n) :
    ∃ c s, naturalDigits n = c :: s ∧ c ≠ '0' := by
  induction n using Nat.strongRecOn with
  | ind n ih =>
    by_cases hsmall : n < 10
    · refine ⟨n.digitChar, [], Nat.toDigits_of_lt_base hsmall, ?_⟩
      rw [ne_eq, Nat.digitChar_eq_zero]
      omega
    · obtain ⟨c, s, hfront, hc⟩ := ih (n / 10) (by omega) (by omega)
      refine ⟨c, s ++ [(n % 10).digitChar], ?_, hc⟩
      rw [naturalDigits, Nat.toDigits_eq_if (by decide), if_neg hsmall]
      rw [naturalDigits] at hfront
      rw [hfront, List.cons_append]

/-- A numeral has one digit, or does not begin with a zero. -/
theorem naturalDigits_ne_zero_cons (n : Nat) (next : Char) (more : List Char) :
    naturalDigits n ≠ '0' :: next :: more := by
  intro heq
  by_cases hn : n = 0
  · rw [hn] at heq
    cases heq
  · obtain ⟨c, s, hhead, hc⟩ := head_naturalDigits (Nat.pos_of_ne_zero hn)
    rw [hhead] at heq
    exact hc (List.cons.inj heq).1

/-- How many digits a power of ten has. -/
theorem length_naturalDigits_pow (k : Nat) : (naturalDigits (Nat.pow 10 k)).length = k + 1 := by
  have hle : (naturalDigits (Nat.pow 10 k)).length ≤ k + 1 :=
    (Nat.length_toDigits_le_iff (by decide) (Nat.succ_pos k)).2
      (Nat.pow_lt_pow_right (by decide) (Nat.lt_succ_self k))
  have hgt : ¬(naturalDigits (Nat.pow 10 k)).length ≤ k := by
    cases k with
    | zero => decide
    | succ k =>
      rw [naturalDigits, Nat.length_toDigits_le_iff (by decide) (Nat.succ_pos k)]
      exact Nat.lt_irrefl _
  omega

/-! ## Reading -/

/-- A number ends in front of this text. -/
def EndsNumber (rest : List Char) : Prop :=
  ∀ c s, rest = c :: s → c = ',' ∨ c = ']' ∨ c = '\x7d'

theorem endsNumber_nil : EndsNumber [] := by
  intro c s h
  cases h

/-- A comma or a closing bracket ends a number. -/
theorem endsNumber_cons {c : Char} (h : c = ',' ∨ c = ']' ∨ c = '\x7d') (rest : List Char) :
    EndsNumber (c :: rest) := by
  rintro _ _ ⟨⟩
  exact h

variable {rest : List Char}

/-- All digits in front of the end of a number are read. -/
theorem spanDigits_append {digits : List Char} (hdigits : ∀ c ∈ digits, c.isDigit = true)
    (hrest : EndsNumber rest) : spanDigits (digits ++ rest) = (digits, rest) := by
  have hstop : rest.takeWhile Char.isDigit = [] ∧ rest.dropWhile Char.isDigit = rest := by
    cases rest with
    | nil => exact ⟨rfl, rfl⟩
    | cons c s =>
      have hc : c.isDigit = false := by
        rcases hrest c s rfl with rfl | rfl | rfl <;> decide
      simp [hc]
  rw [spanDigits, List.span_eq_takeWhile_dropWhile, List.takeWhile_append_of_pos hdigits,
    List.dropWhile_append_of_pos hdigits, hstop.1, hstop.2, List.append_nil]

/-- The document of an integer; a long numeral has one of its own. -/
def integerDocument (n : Int) : Document :=
  if Text.Numeral.digitLimit < (integerDigits n).length then .longInt n else .int n

/-- A whole number ends without fraction and power, and a long one is kept apart. -/
theorem readFraction_of_ends (negative : Bool) (whole : List Char) (hrest : EndsNumber rest) :
    readFraction negative whole rest =
      (if Text.Numeral.digitLimit < whole.length + (if negative then 1 else 0) then
        .longInt (if negative then -(digitsValue whole : Int) else digitsValue whole)
      else .int (if negative then -(digitsValue whole : Int) else digitsValue whole),
        some rest) := by
  unfold readFraction
  split
  · exact absurd (hrest _ _ rfl) (by decide)
  · exact absurd (hrest _ _ rfl) (by decide)
  · exact absurd (hrest _ _ rfl) (by decide)
  · dsimp only
    exact (apply_ite (fun document => (document, some rest)) _ _ _).symm

/-- The digits of a number are read back. -/
theorem readNumber_naturalDigits (negative : Bool) (n : Nat) (hrest : EndsNumber rest) :
    readNumber negative (naturalDigits n ++ rest) =
      readFraction negative (naturalDigits n) rest := by
  rw [readNumber, spanDigits_append (fun _ => isDigit_of_mem_naturalDigits) hrest]
  dsimp only
  split
  · next heq =>
    have hpos := Text.decimalLength_pos n
    rw [Text.decimalLength, heq] at hpos
    exact absurd hpos (Nat.lt_irrefl 0)
  · next heq => exact absurd heq (naturalDigits_ne_zero_cons n _ _)
  · rfl

/-- An integer is read back behind its sign. -/
theorem readNumber_integer (n : Int) (hrest : EndsNumber rest) :
    readNumber (decide (n < 0)) (naturalDigits n.natAbs ++ rest) =
      (integerDocument n, some rest) := by
  rw [readNumber_naturalDigits _ _ hrest, readFraction_of_ends _ _ hrest,
    digitsValue_naturalDigits, integerDocument, integerDigits]
  by_cases hn : n < 0
  · have habs : -(n.natAbs : Int) = n := by omega
    rw [decide_eq_true hn, if_pos hn, if_pos rfl, if_pos rfl, habs, List.length_cons]
  · have habs : (n.natAbs : Int) = n := by omega
    rw [decide_eq_false hn, if_neg hn, if_neg Bool.false_ne_true, if_neg Bool.false_ne_true, habs,
      Nat.add_zero]

end PackageBuild.Json
