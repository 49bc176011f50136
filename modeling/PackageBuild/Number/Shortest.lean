import PackageBuild.Number.Binary64
import PackageBuild.Text.Decimal

/-!
# Shortest decimal text

The text of a floating-point number has the fewest significant digits that read back as the number
and, of the texts with so many digits, the one nearest to it. It is positional when the decimal
point falls within sixteen digits after or less than four zeros before the first digit, and
otherwise in powers of ten.
-/

namespace PackageBuild.Number

/-- The reals that round to a positive number, over a common denominator. -/
structure Rounding where
  value : Nat
  lower : Nat
  upper : Nat
  denominator : Nat
  /-- Whether the two ends round to the number as well. -/
  closed : Bool

namespace Rounding

/-- The interval around `mantissa · 2 ^ exponent`. The lower half is narrower where the spacing
of the numbers changes. -/
def around (mantissa : Nat) (exponent : Int) : Rounding :=
  let up := Nat.pow 2 exponent.toNat
  let narrow := mantissa = Binary64.mantissaBound / 2 ∧ Binary64.leastExponent < exponent
  { value := 4 * mantissa * up
    lower := (4 * mantissa - if narrow then 1 else 2) * up
    upper := (4 * mantissa + 2) * up
    denominator := 4 * Nat.pow 2 (-exponent).toNat
    closed := mantissa % 2 = 0 }

/-- Whether `numerator / scale` rounds to the number. -/
def contains (r : Rounding) (numerator scale : Nat) : Bool :=
  let x := numerator * r.denominator
  if r.closed then r.lower * scale ≤ x && x ≤ r.upper * scale
  else r.lower * scale < x && x < r.upper * scale

/-- The least `point` with the number below `10 ^ point`. -/
def point (r : Rounding) : Int :=
  if r.denominator ≤ r.value then Text.decimalLength (r.value / r.denominator)
  else -((Text.decimalLength ((r.denominator - 1) / r.value) : Int) - 1)

/-- The multiple of `10 ^ -places` nearest to the number that still rounds to it, counted in that
unit. -/
def onGrid (r : Rounding) (places : Int) : Option Nat :=
  let (up, scale) :=
    if 0 ≤ places then (1, Nat.pow 10 places.toNat) else (Nat.pow 10 (-places).toNat, 1)
  let below := r.value * scale / (r.denominator * up)
  let twice := 2 * r.value * scale
  let middle := (2 * below + 1) * r.denominator * up
  let belowFits := r.contains (below * up) scale
  let aboveFits := r.contains ((below + 1) * up) scale
  if belowFits && (!aboveFits || twice < middle || (twice == middle && below % 2 == 0)) then
    some below
  else if aboveFits then some (below + 1)
  else none

/-- The first grid from `count` digits on that holds a candidate; `fuel` bounds the digits. -/
def search (r : Rounding) (fuel count : Nat) : Nat × Int :=
  let places := (count : Int) - r.point
  match r.onGrid places, fuel with
  | some digits, _ => (digits, places)
  | none, 0 => (0, 0)
  | none, fuel + 1 => search r fuel (count + 1)

end Rounding

/-- Decimal digits without the zeros at their end, of which there may be at most `fuel`. -/
def dropTrailingZeros (fuel digits : Nat) : Nat :=
  match fuel with
  | 0 => digits
  | fuel + 1 =>
    if digits ≠ 0 ∧ digits % 10 = 0 then dropTrailingZeros fuel (digits / 10) else digits

/-- The shortest digits of a finite number without its sign, and the place of the decimal point
counted from the first digit. -/
def digitsOf (mantissa : Nat) (exponent : Int) : List Char × Int :=
  if mantissa = 0 then (['0'], 1)
  else
    let (digits, places) := (Rounding.around mantissa exponent).search 17 1
    (Text.naturalDigits (dropTrailingZeros 20 digits),
      (Text.decimalLength digits : Int) - places)

/-- Digits with the decimal point in its place. -/
def positional (digits : List Char) (point : Int) (whole : List Char) : List Char :=
  if point ≤ 0 then '0' :: '.' :: List.replicate (-point).toNat '0' ++ digits
  else if digits.length ≤ point.toNat then
    digits ++ List.replicate (point.toNat - digits.length) '0' ++ whole
  else digits.take point.toNat ++ '.' :: digits.drop point.toNat

/-- Digits with a power of ten behind them, whose exponent has a sign and at least two digits. -/
def scientific (digits : List Char) (point : Int) : List Char :=
  let exponent := point - 1
  let fraction := match digits.drop 1 with
    | [] => []
    | rest => '.' :: rest
  let sign := if exponent < 0 then '-' else '+'
  digits.take 1 ++ fraction ++
    'e' :: sign :: Text.padLeft '0' 2 (Text.naturalDigits exponent.natAbs)

/-- Greatest place of the decimal point in positional text. -/
def lastPositionalPoint : Int := 16

/-- The shortest text of a number, with `whole` behind one that shows no fraction. -/
def shortestChars (whole : List Char) : Binary64 → List Char
  | .nan => ['n', 'a', 'n']
  | .infinite negative => (if negative then ['-'] else []) ++ ['i', 'n', 'f']
  | .finite negative mantissa exponent =>
    let (digits, point) := digitsOf mantissa exponent
    let sign := if negative then ['-'] else []
    if -4 < point ∧ point ≤ lastPositionalPoint then sign ++ positional digits point whole
    else sign ++ scientific digits point

/-- The text of a number, which shows that it is not an integer. -/
def shortestText (x : Binary64) : String := String.ofList (shortestChars ['.', '0'] x)

end PackageBuild.Number
