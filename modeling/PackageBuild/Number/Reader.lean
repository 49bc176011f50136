import PackageBuild.Number.Binary64
import PackageBuild.Text.Blank
import PackageBuild.Text.Hex
import PackageBuild.Text.Numeral
import PackageBuild.Text.Quoted

/-!
# Reading floating-point text

A floating-point text is an optional sign followed by `inf`, `infinity` or `nan` in any case, or by
decimal digits with an optional point and an optional power of ten. A complex number is one such
text, or two of which the second one has a sign and the imaginary unit behind it. Digits of any
script will do, low lines may stand between digits and blanks around the whole.
-/

namespace PackageBuild.Number

/-- Whether a character is a blank of ASCII. -/
def isPlainBlank (c : Char) : Bool := c == ' ' || ('\t' ≤ c && c ≤ '\r')

/-- The ASCII form of a text with characters beyond ASCII: digits of any script are ASCII digits and
other blanks are spaces. Behind the first character without such a form there is nothing any more.
-/
def plainFormOf : List Char → List Char
  | [] => []
  | c :: rest =>
    if c.toNat < 0x7F then c :: plainFormOf rest
    else if Text.isBlank c then ' ' :: plainFormOf rest
    else match Text.digitValue? c with
      | some d => Char.ofNat (48 + d) :: plainFormOf rest
      | none => ['?']

/-- The ASCII form of a text. -/
def plainForm (s : List Char) : List Char :=
  if s.all fun c => c.toNat < 0x80 then s else plainFormOf s

/-- A text without its low lines, each of which must stand between two digits. -/
def withoutLowLines? (before : Char) : List Char → Option (List Char)
  | [] => if before = '_' then none else some []
  | c :: rest =>
    if c = '_' then if before.isDigit then withoutLowLines? c rest else none
    else if before = '_' ∧ !c.isDigit then none
    else (withoutLowLines? c rest).map (c :: ·)

/-- A text in ASCII form without its low lines; no null character may stand behind one. -/
def joined? (s : List Char) : Option (List Char) :=
  if '_' ∉ s.takeWhile (· ≠ '\x00') then some s
  else if '\x00' ∈ s then none
  else withoutLowLines? ' ' s

/-- The longest front part of digits, and the rest. -/
def spanDigits (s : List Char) : List Char × List Char := s.span Char.isDigit

/-- The number that digits write. -/
def digitsValue (digits : List Char) : Nat :=
  Text.Numeral.ofDigits (digits.map fun c => c.toNat - 48)

/-- The sign in front of a text, whether it is negative, and the rest. -/
def spanSign : List Char → Bool × List Char
  | '-' :: rest => (true, rest)
  | '+' :: rest => (false, rest)
  | s => (false, s)

/-- The exponent in front of a text and the rest; without digits there is none. -/
def spanExponent (s : List Char) : Int × List Char :=
  match s with
  | [] => (0, [])
  | c :: more =>
    let (negative, more) := spanSign more
    let (digits, rest) := spanDigits more
    if (c = 'e' ∨ c = 'E') ∧ !digits.isEmpty then
      (if negative then -(digitsValue digits : Int) else digitsValue digits, rest)
    else (0, s)

/-- The exponents beyond which every number with `count` digits is zero or infinite. -/
def clampExponent (count : Nat) (exponent : Int) : Int :=
  max (-(400 + count : Int)) (min exponent (400 + count))

/-- The number in digits in front of a text, and the rest. -/
def spanDecimal? (negative : Bool) (s : List Char) : Option (Binary64 × List Char) :=
  let (whole, rest) := spanDigits s
  let (fraction, rest) := match rest with
    | '.' :: rest => spanDigits rest
    | rest => ([], rest)
  let digits := whole ++ fraction
  if digits.isEmpty then none
  else
    let (exponent, rest) := spanExponent rest
    some (.ofDecimal negative (digitsValue digits)
      (clampExponent digits.length exponent - fraction.length), rest)

/-- The rest behind a word in any case. -/
def dropWord? (word : List Char) (s : List Char) : Option (List Char) :=
  if (s.take word.length).map Char.toLower = word then some (s.drop word.length) else none

/-- The number written as a word in front of a text, and the rest. -/
def spanWord? (negative : Bool) (s : List Char) : Option (Binary64 × List Char) :=
  match dropWord? ['i', 'n', 'f'] s, dropWord? ['n', 'a', 'n'] s with
  | some rest, _ =>
    some (.infinite negative, (dropWord? ['i', 'n', 'i', 't', 'y'] rest).getD rest)
  | none, some rest => some (.nan, rest)
  | none, none => none

/-- The number in front of a text, and the rest. -/
def spanNumber? (s : List Char) : Option (Binary64 × List Char) :=
  let (negative, rest) := spanSign s
  (spanDecimal? negative rest).or (spanWord? negative rest)

/-- A text without the blanks in front. -/
def dropBlanks (s : List Char) : List Char := s.dropWhile isPlainBlank

/-- The number that a text in ASCII form is, with blanks around it. -/
def ofPlain? (s : List Char) : Option Binary64 :=
  match spanNumber? (dropBlanks s) with
  | some (x, rest) => if (dropBlanks rest).isEmpty then some x else none
  | none => none

/-- The number that a text writes, rounded to the nearest. -/
def binary64? (text : String) : Option Binary64 :=
  (joined? (plainForm text.toList)).bind ofPlain?

/-! ## Complex numbers -/

/-- The part before the imaginary unit and the rest behind the unit: a number, or a sign alone that
stands for one. -/
def spanImaginary? (s : List Char) : Option (Binary64 × List Char) :=
  let (x, rest) := match spanNumber? s with
    | some found => found
    | none =>
      let (negative, rest) := spanSign s
      (.ofRatio negative 1 1, rest)
  match rest with
  | 'j' :: rest | 'J' :: rest => some (x, rest)
  | _ => none

/-- Whether a text begins with a sign. -/
def beginsWithSign : List Char → Bool
  | '+' :: _ | '-' :: _ => true
  | _ => false

/-- The complex number in front of a text, and the rest. -/
def spanComplex? (s : List Char) : Option ((Binary64 × Binary64) × List Char) :=
  match spanImaginary? s, spanNumber? s with
  | some (im, rest), _ => some ((.zero false, im), rest)
  | none, none => none
  | none, some (re, rest) =>
    if beginsWithSign rest then
      (spanImaginary? rest).map fun (im, rest) => ((re, im), rest)
    else some ((re, .zero false), rest)

/-- The complex number that a text in ASCII form is, with blanks and maybe parentheses around it. -/
def complexOfPlain? (s : List Char) : Option (Binary64 × Binary64) :=
  let s := dropBlanks s
  let (enclosed, s) := match s with
    | '(' :: rest => (true, dropBlanks rest)
    | s => (false, s)
  (spanComplex? s).bind fun (number, rest) =>
    match enclosed, dropBlanks rest with
    | false, [] => some number
    | true, ')' :: rest => if (dropBlanks rest).isEmpty then some number else none
    | _, _ => none

/-! ## Hexadecimal integers -/

/-- The digits without the mark in front that tells that they are hexadecimal. -/
def dropHexMark : List Char → List Char
  | '0' :: 'x' :: '_' :: rest | '0' :: 'X' :: '_' :: rest => rest
  | '0' :: 'x' :: rest | '0' :: 'X' :: rest => rest
  | s => s

/-- Digits without their low lines, each of which must stand between two others. -/
def joinedDigits? : List Char → Option (List Char)
  | [] | ['_'] => none
  | [c] => some [c]
  | '_' :: _ => none
  | c :: '_' :: rest => (joinedDigits? rest).map (c :: ·)
  | c :: rest => (joinedDigits? rest).map (c :: ·)

/-- The integer that a text writes in hexadecimal digits. -/
def hexInteger? (text : String) : Option Int :=
  let s := dropBlanks (plainForm text.toList)
  let (negative, s) := spanSign (dropBlanks s.reverse).reverse
  ((joinedDigits? (dropHexMark s)).bind Text.readHex?).map fun n =>
    if negative then -(n : Int) else n

/-- Why a text writes no number. -/
inductive Misread where
  | noNumber (kind text : String)
  | noComplex
  | noHex (text : String)
  deriving DecidableEq, Repr

/-- The greatest number of characters that a message shows of a text. -/
def shownLimit : Nat := 200

/-- The text about a text that writes no number. -/
def Misread.message : Misread → String
  | noNumber kind text => "could not convert string to " ++ kind ++ ": " ++ Text.quoted text
  | noComplex => "complex() arg is a malformed string"
  | noHex text =>
    "invalid literal for int() with base 16: " ++
      String.ofList ((Text.quoted text).toList.take shownLimit)

/-- Read a number. -/
def readBinary64 (text : String) : Except Misread Binary64 :=
  match binary64? text with
  | some x => .ok x
  | none => .error (.noNumber "float" text)

/-- Read the two parts of a complex number. -/
def readComplex (text : String) : Except Misread (Binary64 × Binary64) :=
  match joined? (plainForm text.toList) with
  | none => .error (.noNumber "complex" text)
  | some s =>
    match complexOfPlain? s with
    | some number => .ok number
    | none => .error .noComplex

/-- Read a hexadecimal integer. -/
def readHexInteger (text : String) : Except Misread Int :=
  match hexInteger? text with
  | some n => .ok n
  | none => .error (.noHex text)

end PackageBuild.Number
