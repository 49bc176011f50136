/-!
# Binary floating-point numbers

The numbers of the 64-bit binary format, given exactly: a finite one is `± mantissa · 2 ^ exponent`
in its canonical form, where the mantissa has 53 bits unless the exponent is the least one.
-/

namespace PackageBuild.Number

/-- A number of the 64-bit binary floating-point format. -/
inductive Binary64 where
  /-- The number `± mantissa · 2 ^ exponent`; zero has the least exponent. -/
  | finite (negative : Bool) (mantissa : Nat) (exponent : Int)
  | infinite (negative : Bool)
  | nan
  deriving DecidableEq, Repr

namespace Binary64

/-- The exponent of the smallest positive number. -/
def leastExponent : Int := -1074

/-- The greatest exponent of a finite number. -/
def greatestExponent : Int := 971

/-- Mantissas are below this bound. -/
def mantissaBound : Nat := Nat.pow 2 53

/-- Zero with a sign. -/
def zero (negative : Bool) : Binary64 := .finite negative 0 leastExponent

/-- The quotient of two natural numbers rounded to the nearest integer, a half to the even one. -/
def roundDiv (numerator denominator : Nat) : Nat :=
  let quotient := numerator / denominator
  let rest := numerator % denominator
  if 2 * rest < denominator then quotient
  else if denominator < 2 * rest then quotient + 1
  else if quotient % 2 = 0 then quotient else quotient + 1

/-- `numerator / denominator` divided by `2 ^ exponent`, rounded. -/
def roundScaled (numerator denominator : Nat) (exponent : Int) : Nat :=
  if 0 ≤ exponent then roundDiv numerator (denominator * Nat.pow 2 exponent.toNat)
  else roundDiv (numerator * Nat.pow 2 (-exponent).toNat) denominator

/-- The exponent at which the quotient of two positive numbers has 53 bits, or the one below it. -/
def exponentNear (numerator denominator : Nat) : Int :=
  (numerator.log2 : Int) - (denominator.log2 : Int) - 53

/-- The number with a mantissa that may have become one bit too long by rounding. -/
def ofMantissa (negative : Bool) (mantissa : Nat) (exponent : Int) : Binary64 :=
  let (mantissa, exponent) :=
    if mantissa = mantissaBound then (mantissaBound / 2, exponent + 1) else (mantissa, exponent)
  if greatestExponent < exponent then .infinite negative
  else if mantissa = 0 then zero negative
  else .finite negative mantissa exponent

/-- The nearest number to a quotient of natural numbers; of two equally near ones that with the
even mantissa. -/
def ofRatio (negative : Bool) (numerator denominator : Nat) : Binary64 :=
  if numerator = 0 ∨ denominator = 0 then zero negative
  else
    let near := max leastExponent (exponentNear numerator denominator)
    let mantissa := roundScaled numerator denominator near
    if mantissa ≤ mantissaBound then ofMantissa negative mantissa near
    else ofMantissa negative (roundScaled numerator denominator (near + 1)) (near + 1)

/-- The nearest number to `± digits · 10 ^ exponent`. -/
def ofDecimal (negative : Bool) (digits : Nat) (exponent : Int) : Binary64 :=
  if 0 ≤ exponent then ofRatio negative (digits * Nat.pow 10 exponent.toNat) 1
  else ofRatio negative digits (Nat.pow 10 (-exponent).toNat)

/-- Whether a number counts as false: it is a zero. -/
def isZero : Binary64 → Bool
  | .finite _ mantissa _ => mantissa = 0
  | _ => false

/-- Whether a number is an infinity. -/
def isInfinite : Binary64 → Bool
  | .infinite _ => true
  | _ => false

/-- A finite number as an integer over a power of two. -/
def signedMantissa (negative : Bool) (mantissa : Nat) : Int :=
  if negative then -(mantissa : Int) else mantissa

/-- The order of two finite numbers. -/
def compareFinite (m : Int) (e : Int) (n : Int) (f : Int) : Ordering :=
  let least := min e f
  compare (m * Nat.pow 2 (e - least).toNat) (n * Nat.pow 2 (f - least).toNat)

/-- The order of two numbers; `none` when one is undefined. -/
def compare? : Binary64 → Binary64 → Option Ordering
  | .nan, _ => none
  | _, .nan => none
  | .infinite s, .infinite t => some (compare (!s) (!t))
  | .infinite s, .finite .. => some (if s then .lt else .gt)
  | .finite .., .infinite t => some (if t then .gt else .lt)
  | .finite s m e, .finite t n f =>
    some (compareFinite (signedMantissa s m) e (signedMantissa t n) f)

/-- The order of an integer and a number; `none` when the number is undefined. -/
def compareInt? (i : Int) : Binary64 → Option Ordering
  | .nan => none
  | .infinite t => some (if t then .gt else .lt)
  | .finite t n f => some (compareFinite i 0 (signedMantissa t n) f)

/-- The integer that a number is equal to, if there is one. -/
def whole? : Binary64 → Option Int
  | finite negative mantissa exponent =>
    let numerator := mantissa * Nat.pow 2 exponent.toNat
    let denominator := Nat.pow 2 (-exponent).toNat
    if numerator % denominator = 0 then some (signedMantissa negative (numerator / denominator))
    else none
  | _ => none

end Binary64

end PackageBuild.Number
