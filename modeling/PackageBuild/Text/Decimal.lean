/-!
# Decimal text of whole numbers

Numbers in ASCII digits without leading zeros, a minus sign in front of the negative ones.

Main results:

- `decimalLength_pos`: every number has at least one digit.
- `naturalText_injective`: different numbers have different texts.
-/

namespace PackageBuild.Text

/-- The decimal digits of a natural number. -/
def naturalDigits (n : Nat) : List Char := Nat.toDigits 10 n

/-- The number of decimal digits of a natural number; zero has one. -/
def decimalLength (n : Nat) : Nat := (naturalDigits n).length

/-- The decimal digits of an integer behind its sign. -/
def integerDigits (n : Int) : List Char :=
  if n < 0 then '-' :: naturalDigits n.natAbs else naturalDigits n.natAbs

/-- The decimal text of an integer. -/
def integerText (n : Int) : String := String.ofList (integerDigits n)

/-- The decimal text of a natural number. -/
def naturalText (n : Nat) : String := String.ofList (naturalDigits n)

theorem decimalLength_pos (n : Nat) : 0 < decimalLength n := by
  simp [decimalLength, naturalDigits, Nat.length_toDigits_pos]

/-- Different numbers have different texts. -/
theorem naturalText_injective {m n : Nat} (h : naturalText m = naturalText n) : m = n := by
  have hdigits : naturalDigits m = naturalDigits n := by
    simpa [naturalText] using congrArg String.toList h
  calc
    m = Nat.ofDigitChars 10 (naturalDigits m) 0 :=
      (Nat.ofDigitChars_toDigits (by decide) (by decide)).symm
    _ = Nat.ofDigitChars 10 (naturalDigits n) 0 := by rw [hdigits]
    _ = n := Nat.ofDigitChars_toDigits (by decide) (by decide)

/-- A list of characters padded in front to a width. -/
def padLeft (fill : Char) (width : Nat) (s : List Char) : List Char :=
  List.replicate (width - s.length) fill ++ s

/-- A list of characters padded at its end to a width. -/
def padRight (fill : Char) (width : Nat) (s : List Char) : List Char :=
  s ++ List.replicate (width - s.length) fill

end PackageBuild.Text
