import PackageBuild.Number.Shortest
import PackageBuild.Template.Basic
import PackageBuild.Value.Display

/-!
# Filling in templates

The directives of a template are filled in one after another. A tuple gives its items in their
order; any other value is one for itself, and the items of a map have names as well. After a named
field that field alone is there to be taken.
-/

namespace PackageBuild

open Number

/-- A directive whose numbers are known. -/
structure Template.Layout extends Template.Style where
  width : Nat := 0
  precision? : Option Nat := none
  conversion : Char
  index : Nat
  deriving DecidableEq, Repr

namespace Template.Layout

/-! ## Padding and signs -/

/-- A text padded with blanks to the width. -/
def pad (d : Layout) (s : List Char) : List Char :=
  if d.left then Text.padRight ' ' d.width s else Text.padLeft ' ' d.width s

/-- A text cut to the precision and padded. -/
def fillText (d : Layout) (s : List Char) : List Char :=
  d.pad (match d.precision? with
    | some n => s.take n
    | none => s)

/-- The sign of a number. -/
def sign (d : Layout) (negative : Bool) : List Char :=
  if negative then ['-'] else if d.plus then ['+'] else if d.blank then [' '] else []

/-- The digits of a number behind its sign and its base, padded. -/
def fillDigits (d : Layout) (negative : Bool) (base digits : List Char) : List Char :=
  let front := d.sign negative ++ base
  if d.zeros && !d.left then front ++ Text.padLeft '0' (d.width - front.length) digits
  else d.pad (front ++ digits)

/-! ## Integers -/

/-- The mark of the base of the conversion, and the digits of a number in that base. -/
def integerParts (d : Layout) (n : Nat) : List Char × List Char :=
  let mark (c : Char) : List Char := if d.alternate then ['0', c] else []
  match d.conversion with
  | 'x' => (mark 'x', Nat.toDigits 16 n)
  | 'X' => (mark 'X', (Nat.toDigits 16 n).map Char.toUpper)
  | 'o' => (mark 'o', Nat.toDigits 8 n)
  | _ => ([], Text.naturalDigits n)

/-- An integer as the conversion writes it. -/
def fillInteger (d : Layout) (n : Int) : List Char :=
  let (base, digits) := d.integerParts n.natAbs
  d.fillDigits (n < 0) base (Text.padLeft '0' (d.precision?.getD 0) digits)

/-! ## Decimal places and powers of ten -/

/-- So many significant digits of a quotient, rounded, and the power of ten of the first digit. -/
def significant (numerator denominator count : Nat) : List Char × Int :=
  if numerator = 0 then (List.replicate count '0', 0)
  else
    let point : Int := (Rounding.mk numerator 0 0 denominator true).point
    let places := (count : Int) - point
    let scaled := Binary64.roundDiv (numerator * Nat.pow 10 places.toNat)
      (denominator * Nat.pow 10 (-places).toNat)
    let digits := Text.naturalDigits scaled
    if digits.length ≤ count then (digits, point - 1) else (digits.take count, point)

/-- Digits behind a point, which goes with the last of them. -/
def fraction (d : Layout) (digits : List Char) : List Char :=
  if digits.isEmpty && !d.alternate then [] else '.' :: digits

/-- A quotient with decimal places. -/
def placesText (d : Layout) (numerator denominator : Nat) : List Char :=
  let places := d.precision?.getD 6
  let digits := Text.padLeft '0' (places + 1)
    (Text.naturalDigits (Binary64.roundDiv (numerator * Nat.pow 10 places) denominator))
  digits.take (digits.length - places) ++ d.fraction (digits.drop (digits.length - places))

/-- Digits with a power of ten of at least two digits. -/
def powerOfTen (d : Layout) (digits : List Char) (power : Int) : List Char :=
  let mark := if d.conversion.isUpper then 'E' else 'e'
  digits.take 1 ++ d.fraction (digits.drop 1) ++
    mark :: (if power < 0 then '-' else '+') ::
      Text.padLeft '0' 2 (Text.naturalDigits power.natAbs)

/-- A quotient with a power of ten. -/
def powerText (d : Layout) (numerator denominator : Nat) : List Char :=
  let (digits, power) := significant numerator denominator (d.precision?.getD 6 + 1)
  d.powerOfTen digits power

/-- Digits without the zeros at their end, unless these are asked for. -/
def trimZeros (d : Layout) (digits : List Char) : List Char :=
  if d.alternate then digits else (digits.reverse.dropWhile (· == '0')).reverse

/-- A quotient with a power of ten if its first digit is far from the point. -/
def generalText (d : Layout) (numerator denominator : Nat) : List Char :=
  let count := max 1 (d.precision?.getD 6)
  let (digits, power) := significant numerator denominator count
  if power < -4 ∨ (count : Int) ≤ power then
    d.powerOfTen (digits.take 1 ++ d.trimZeros (digits.drop 1)) power
  else
    let digits := List.replicate (-power).toNat '0' ++ digits
    let whole := power.toNat + 1
    digits.take whole ++ d.fraction (d.trimZeros (digits.drop whole))

/-- A quotient as the conversion writes it. -/
def quotientText (d : Layout) (numerator denominator : Nat) : List Char :=
  match d.conversion.toLower with
  | 'e' => d.powerText numerator denominator
  | 'g' => d.generalText numerator denominator
  | _ => d.placesText numerator denominator

/-- A floating-point number as the conversion writes it. -/
def fillFloat (d : Layout) (x : Binary64) : List Char :=
  let capital (s : List Char) := if d.conversion.isUpper then s.map Char.toUpper else s
  match x with
  | .nan => d.fillDigits false [] (capital ['n', 'a', 'n'])
  | .infinite negative => d.fillDigits negative [] (capital ['i', 'n', 'f'])
  | .finite negative mantissa exponent =>
    d.fillDigits negative []
      (d.quotientText (mantissa * Nat.pow 2 exponent.toNat) (Nat.pow 2 (-exponent).toNat))

end Template.Layout

namespace Template

/-! ## Values -/

/-- The integer part of a number. -/
def truncate : Binary64 → Except Fault Int
  | .nan => .error .undefinedNumber
  | .infinite _ => .error .infiniteNumber
  | .finite negative mantissa exponent =>
    let n := mantissa * Nat.pow 2 exponent.toNat / Nat.pow 2 (-exponent).toNat
    .ok (if negative then -(n : Int) else n)

/-- A text with all characters beyond ASCII escaped. -/
def asciiOnly (s : List Char) : List Char :=
  s.flatMap fun c =>
    if c.toNat < 0x80 then [c]
    else if c.toNat ≤ 0xFF then '\x5c' :: 'x' :: Text.hexFixed 2 c.toNat
    else if c.toNat ≤ 0xFFFF then '\x5c' :: 'u' :: Text.hexFixed 4 c.toNat
    else '\x5c' :: 'U' :: Text.hexFixed 8 c.toNat

/-- The greatest number of digits to write an integer with. -/
def digitLimit : Nat := 0x7FFFFFFC

/-- An integer as a directive writes it. -/
def fillInteger (d : Layout) (n : Int) : Except Fault (List Char) :=
  if d.precision?.getD 0 ≤ digitLimit then .ok (d.fillInteger n) else .error .tooManyDigits

/-- A value as a conversion to an integer writes it. -/
def fillWhole (d : Layout) (v : Value) : Except Fault (List Char) :=
  match v, v.asInt? with
  | .float x, _ => truncate x >>= fillInteger d
  | _, some n => fillInteger d n
  | v, none => .error (.notNumber d.conversion v.typeName)

/-- A value as a conversion to another base writes it. -/
def fillBase (d : Layout) (v : Value) : Except Fault (List Char) :=
  match v.asInt? with
  | some n => fillInteger d n
  | none => .error (.notInteger d.conversion v.typeName)

/-- A value as a conversion with decimal places writes it. -/
def fillReal (d : Layout) (v : Value) : Except Fault (List Char) :=
  match v, v.asInt? with
  | .float x, _ => .ok (d.fillFloat x)
  | _, some n =>
    let x := Binary64.ofRatio (n < 0) n.natAbs 1
    if x.isInfinite then .error .realRange else .ok (d.fillFloat x)
  | v, none => .error (.notReal v.typeName)

/-- A value as a character. -/
def fillCharacter (d : Layout) (v : Value) : Except Fault (List Char) :=
  match v.asInt?, v.asText?.map String.toList with
  | some n, _ =>
    if 0 ≤ n ∧ n < 0x110000 then .ok (d.pad [Char.ofNat n.toNat]) else .error .characterRange
  | none, some [c] => .ok (d.pad [c])
  | none, _ => .error .notCharacter

/-- A value as a directive writes it. -/
def fillValue (d : Layout) (v : Value) : Except Fault (List Char) :=
  match d.conversion with
  | 's' => (v.plainText.mapError .noText).map fun s => d.fillText s.toList
  | 'r' => .ok (d.fillText v.display.toList)
  | 'a' => .ok (d.fillText (asciiOnly v.display.toList))
  | 'c' => fillCharacter d v
  | 'd' | 'i' | 'u' => fillWhole d v
  | 'e' | 'E' | 'f' | 'F' | 'g' | 'G' => fillReal d v
  | 'x' | 'X' | 'o' => fillBase d v
  | c => .error (.unknownConversion c d.index)

/-- The widths from here on are more than a memory holds. -/
def memoryLimit : Nat := 0x100000000

/-- A value as a directive writes it, if there is room for it. -/
def fillWithin (d : Layout) (v : Value) : Except Fault (List Char) :=
  if d.width < memoryLimit then fillValue d v
  else fillValue { d with width := 0 } v >>= fun _ => .error .tooWide

/-! ## Supplies -/

/-- What is there to fill in the next directives. -/
structure Supply where
  named? : Option Value := none
  left : List Value

namespace Supply

/-- All of a value. -/
def ofValue : Value → Supply
  | .tuple items => { left := items }
  | .map entries => ⟨some (.map entries), [.map entries]⟩
  | .list items => ⟨some (.list items), [.list items]⟩
  | .bytes b => ⟨some (.bytes b), [.bytes b]⟩
  | v => { left := [v] }

/-- The next value, and what is left. -/
def take : Supply → Except Fault (Value × Supply)
  | ⟨named?, v :: left⟩ => .ok (v, ⟨named?, left⟩)
  | ⟨_, []⟩ => .error .tooFew

/-- The item of a value under a name; other items than those of a map have no names. -/
def item (name : String) : Value → Except Fault Value
  | .map entries =>
    match entries.find? fun entry => entry.1.asText? == some name with
    | some entry => .ok entry.2
    | none => .error (.noField name)
  | .list _ => .error (.placesOnly "list")
  | .bytes _ => .error (.placesOnly "byte")
  | _ => .error .namesMissing

/-- The supply with the field of a name alone left. -/
def select (s : Supply) (name : String) : Except Fault Supply :=
  match s.named? with
  | some v => (item name v).map fun field => { s with left := [field] }
  | none => .error .namesMissing

/-- The supply for a directive with a name, if it has one. -/
def selectAny (s : Supply) : Option String → Except Fault Supply
  | some name => s.select name
  | none => .ok s

/-- The next value as an integer, and what is left. -/
def takeInteger (s : Supply) : Except Fault (Int × Supply) := do
  let (v, s) ← s.take
  match v.asInt? with
  | some n => return (n, s)
  | none => .error .sizeNotWhole

end Supply

/-! ## Widths and precisions -/

/-- The bound on widths. -/
def widthBound : Nat := 0x8000000000000000

/-- The bound on precisions. -/
def precisionBound : Nat := 0x80000000

/-- The width, and whether it is a negative one, which aligns to the left. -/
def widthOf (s : Supply) : Extent → Except Fault ((Nat × Bool) × Supply)
  | .fixed n => if n < widthBound then .ok ((n, false), s) else .error .widthTooLarge
  | .asked => do
    let (n, s) ← s.takeInteger
    if -(widthBound : Int) ≤ n ∧ n < widthBound then
      return ((n.natAbs % widthBound, n < 0), s)
    else .error .widthRange

/-- The precision; a negative one counts as zero. -/
def precisionOf (s : Supply) : Option Extent → Except Fault (Option Nat × Supply)
  | none => .ok (none, s)
  | some (.fixed n) => if n < precisionBound then .ok (some n, s) else .error .precisionTooLarge
  | some .asked => do
    let (n, s) ← s.takeInteger
    if -(precisionBound : Int) ≤ n ∧ n < precisionBound then return (some n.toNat, s)
    else .error .precisionRange

/-! ## Templates -/

/-- A directive filled in, and what is left. -/
def fillDirective (s : Supply) (d : Directive) : Except Fault (List Char × Supply) := do
  let s ← s.selectAny d.name?
  let ((width, negative), s) ← widthOf s d.width
  let (precision?, s) ← precisionOf s d.precision?
  match d.conversion? with
  | none => .error .incomplete
  | some conversion =>
    let (v, s) ← s.take
    let style := { d.style with left := d.style.left || negative }
    return (← fillWithin ⟨style, width, precision?, conversion, d.index⟩ v, s)

/-- The pieces filled in. -/
def fillPieces (s : Supply) : List Piece → Except Fault (List Char)
  | [] => if s.left.isEmpty || s.named?.isSome then .ok [] else .error .tooMany
  | .literal c :: rest => (fillPieces s rest).map (c :: ·)
  | .unclosed :: _ => .error (if s.named?.isSome then .incompleteName else .namesMissing)
  | .directive d :: rest => do
    let (text, s) ← fillDirective s d
    return text ++ (← fillPieces s rest)

/-- A template filled in with a value. -/
def fill (t : Template) (v : Value) : Except Fault String :=
  (fillPieces (.ofValue v) t.pieces).map String.ofList

end Template

end PackageBuild
