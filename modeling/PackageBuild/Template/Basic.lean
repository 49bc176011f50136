import PackageBuild.Text.Alphanumeric
import PackageBuild.Text.Digit
import PackageBuild.Text.Numeral
import PackageBuild.Text.Quoted
import PackageBuild.Value.Basic

/-!
# Templates

A template is text with directives. A directive begins with a percent sign and ends with the letter
of a conversion; between them stand the name of a field in parentheses, flags, a width and a
precision, all of them optional. An asterisk for a width or a precision asks for a value.
-/

namespace PackageBuild

/-- Why a template cannot be filled in. -/
inductive Template.Fault where
  | incomplete
  | incompleteName
  | unknownConversion (conversion : Char) (index : Nat)
  | widthTooLarge
  | precisionTooLarge
  /-- The value for a width or a precision is no integer. -/
  | sizeNotWhole
  | widthRange
  | precisionRange
  | noField (name : String)
  | placesOnly (what : String)
  /-- The conversion to an integer takes numbers only. -/
  | notNumber (conversion : Char) (typeName : String)
  /-- A conversion with decimal places takes numbers only. -/
  | notReal (typeName : String)
  /-- An integer is too large for a conversion with decimal places. -/
  | realRange
  /-- More digits are asked for than an integer can be written with. -/
  | tooManyDigits
  | undefinedNumber
  | infiniteNumber
  | notInteger (conversion : Char) (typeName : String)
  | notCharacter
  | characterRange
  /-- The filled template does not fit into the memory. -/
  | tooWide
  | noText (fault : Value.Fault)
  /-- A field is named where the values have no names. -/
  | namesMissing
  | tooFew
  | tooMany
  deriving DecidableEq, Repr

/-- A character as a message shows it: the printable ASCII ones as they are, and the one before
them. -/
def Template.shown (c : Char) : Char := if 31 ≤ c.toNat ∧ c.toNat < 127 then c else '?'

/-- The text of a fault. -/
def Template.Fault.message : Template.Fault → String
  | incomplete => "incomplete format"
  | incompleteName => "incomplete format key"
  | unknownConversion c index =>
    "unsupported format character '" ++ String.ofList [Template.shown c] ++ "' (0x" ++
      String.ofList (Nat.toDigits 16 c.toNat) ++ ") at index " ++ Text.naturalText index
  | widthTooLarge => "width too big"
  | precisionTooLarge => "precision too big"
  | sizeNotWhole => "* wants int"
  | widthRange => "Python int too large to convert to C ssize_t"
  | precisionRange => "Python int too large to convert to C int"
  | noField name => Text.quoted name
  | placesOnly what => what ++ " indices must be integers or slices, not str"
  | notNumber c typeName =>
    "%" ++ String.ofList [c] ++ " format: a real number is required, not " ++ typeName
  | notInteger c typeName =>
    "%" ++ String.ofList [c] ++ " format: an integer is required, not " ++ typeName
  | notReal typeName => "must be real number, not " ++ typeName
  | realRange => "int too large to convert to float"
  | tooManyDigits => "precision too large"
  | undefinedNumber => "cannot convert float NaN to integer"
  | infiniteNumber => "cannot convert float infinity to integer"
  | notCharacter => "%c requires int or char"
  | characterRange => "%c arg not in range(0x110000)"
  | tooWide => ""
  | noText fault => fault.message
  | namesMissing => "format requires a mapping"
  | tooFew => "not enough arguments for format string"
  | tooMany => "not all arguments converted during string formatting"

/-- How a directive writes a value, in yes and no. -/
structure Template.Style where
  left : Bool := false
  zeros : Bool := false
  plus : Bool := false
  /-- Whether to write a blank for the sign of positive numbers. -/
  blank : Bool := false
  alternate : Bool := false
  deriving DecidableEq, Repr

/-- A width or a precision of a directive. -/
inductive Template.Extent where
  | fixed (n : Nat)
  | asked
  deriving DecidableEq, Repr

/-- A directive of a template. -/
structure Directive where
  name? : Option String := none
  style : Template.Style := {}
  width : Template.Extent := .fixed 0
  precision? : Option Template.Extent := none
  /-- The letter of the conversion; `none` where the template ends before it. -/
  conversion? : Option Char
  index : Nat
  deriving DecidableEq, Repr

/-- A piece of a template. -/
inductive Piece where
  | literal (c : Char)
  | directive (d : Directive)
  /-- A directive with a name that does not end. -/
  | unclosed
  deriving DecidableEq, Repr

/-- A template as its pieces. -/
structure Template where
  pieces : List Piece
  deriving DecidableEq, Repr

namespace Template

/-- The name in parentheses behind its opening one, and the text behind it; parentheses inside must
balance. -/
def readName? (depth : Nat) : List Char → Option (List Char × List Char)
  | [] => none
  | c :: rest =>
    if c = ')' then
      match depth with
      | 0 => some ([], rest)
      | depth + 1 => (readName? depth rest).map fun (s, tail) => (c :: s, tail)
    else
      (readName? (if c = '(' then depth + 1 else depth) rest).map fun (s, tail) => (c :: s, tail)

/-- The characters of flags. -/
def flagCharacters : List Char := ['#', '0', '-', ' ', '+']

/-- The flags that characters stand for. -/
def styleOf (flags : List Char) : Style where
  left := '-' ∈ flags
  zeros := '0' ∈ flags
  plus := '+' ∈ flags
  blank := ' ' ∈ flags
  alternate := '#' ∈ flags

/-- The letters that change nothing. -/
def sizeCharacters : List Char := ['h', 'l', 'L']

/-- The number that ASCII digits write, and the text behind them. -/
def readNumber (s : List Char) : Nat × List Char :=
  let (digits, rest) := s.span Char.isDigit
  (Text.Numeral.ofDigits (digits.map fun c => c.toNat - 48), rest)

/-- A width or a precision, and the text behind it. -/
def readExtent : List Char → Extent × List Char
  | '*' :: rest => (.asked, rest)
  | s => (.fixed (readNumber s).1, (readNumber s).2)

/-- The precision of a directive, if it has one, and the text behind it. -/
def readPrecision : List Char → Option Extent × List Char
  | '.' :: rest => (some (readExtent rest).1, (readExtent rest).2)
  | s => (none, s)

/-- A text without a letter in front of it that changes nothing. -/
def dropSizeLetter : List Char → List Char
  | c :: rest => if c ∈ sizeCharacters then rest else c :: rest
  | [] => []

/-- The directive behind its name, in a template of so many characters, and the text behind it. -/
def readDirective (length : Nat) (name? : Option String) (s : List Char) :
    Directive × List Char :=
  let (flags, s) := s.span (· ∈ flagCharacters)
  let (width, s) := readExtent s
  let (precision?, s) := readPrecision s
  let s := dropSizeLetter s
  ({ name?, style := styleOf flags, width, precision?
     conversion? := s.head?
     index := length - s.length }, s.tail)

/-- The pieces of a template of so many characters; two percent signs stand for one, and `fuel`
bounds the pieces. -/
def piecesOf (fuel : Nat) (length : Nat) (s : List Char) : List Piece :=
  match fuel, s with
  | 0, _ => []
  | _, [] => []
  | fuel + 1, '%' :: '%' :: rest => .literal '%' :: piecesOf fuel length rest
  | fuel + 1, '%' :: '(' :: rest =>
    match readName? 0 rest with
    | none => [.unclosed]
    | some (name, rest) =>
      let (d, rest) := readDirective length (some (String.ofList name)) rest
      .directive d :: piecesOf fuel length rest
  | fuel + 1, '%' :: rest =>
    let (d, rest) := readDirective length none rest
    .directive d :: piecesOf fuel length rest
  | fuel + 1, c :: rest => .literal c :: piecesOf fuel length rest

/-- The template that a text writes. -/
def ofChars (s : List Char) : Template := ⟨piecesOf s.length s.length s⟩

/-! ## Templates that name a field -/

/-- Whether a character may stand in a name. -/
def isNameCharacter (c : Char) : Bool := Text.isAlphanumeric c || c == '_'

/-- A text without a size in front of it. -/
def dropSize : List Char → List Char
  | '*' :: rest => rest
  | s => s.dropWhile Text.isDigit

/-- A text without a precision in front of it. -/
def dropPrecision (s : List Char) : List Char :=
  match s with
  | '.' :: rest =>
    let after := dropSize rest
    if after.length < rest.length then after else s
  | _ => s

/-- The characters that may end a directive with a name, without regard to case: the letters of the
conversions, and the dotless, the dotted and the long forms of two of them. -/
def namedConversions : List Char :=
  ['d', 'i', 'o', 'u', 'x', 'e', 'f', 'g', 'c', 'r', 's', 'a', '%', 'ı', 'İ', 'ſ']

/-- Whether a text begins with a directive that names a field. -/
def beginsNamed : List Char → Bool
  | '%' :: '(' :: rest =>
    let (name, rest) := rest.span isNameCharacter
    match rest with
    | ')' :: rest =>
      let rest := dropPrecision (dropSize (rest.dropWhile (· ∈ flagCharacters)))
      !name.isEmpty && match rest with
        | c :: _ => namedConversions.contains c.toLower
        | [] => false
    | _ => false
  | _ => false

/-- Whether a text has a directive that names a field. -/
def namesField : List Char → Bool
  | [] => false
  | c :: rest => beginsNamed (c :: rest) || namesField rest

end Template

end PackageBuild
