import PackageBuild.Number.Reader

/-!
# JSON documents

What a JSON text says, as far as it can be read. Where reading had to stop, the document holds the
fault at that place, so that what stands before it can still be looked at in order.

Main results:

- `isWhole_array` and `isWhole_object`: a document is whole when all of it was read.
-/

namespace PackageBuild.Json

/-- Why a text is no JSON at some place. -/
inductive Reason where
  | invalidCharacter
  | invalidNumber
  | invalidEscape
  | invalidUnicodeEscape
  | invalidSurrogates
  | lonelySurrogate
  | expectedCommaOrBrace
  | expectedCommaOrBracket
  | expectedColon
  | trailingCommaInArray
  | trailingCommaInObject
  | keyNotString
  | trailingCharacters
  deriving DecidableEq, Repr

namespace Reason

/-- The text of a reason. -/
def text : Reason → String
  | invalidCharacter => "invalid character"
  | invalidNumber => "invalid number"
  | invalidEscape => "invalid escape character in string"
  | invalidUnicodeEscape => "invalid character in unicode escape"
  | invalidSurrogates => "invalid utf-16 surrogate pair"
  | lonelySurrogate => "unexpected end of escaped utf-16 surrogate pair"
  | expectedCommaOrBrace => "expected ',' or '\x7d'"
  | expectedCommaOrBracket => "expected ',' or ']'"
  | expectedColon => "expected ':'"
  | trailingCommaInArray => "trailing comma in array"
  | trailingCommaInObject => "trailing comma in object"
  | keyNotString => "object keys must be strings"
  | trailingCharacters => "trailing characters"

end Reason

/-- Where and why reading stopped. -/
inductive Fault where
  | truncated
  /-- The text is wrong; so many bytes of it are left. -/
  | malformed (reason : Reason) (remaining : Nat)
  deriving DecidableEq, Repr

/-- What a JSON text says. -/
inductive Document where
  | null
  | bool (b : Bool)
  | int (n : Int)
  /-- An integer with more digits than a numeral may have. -/
  | longInt (n : Int)
  /-- A number with a fraction or an exponent, as it is written. -/
  | decimal (written : List Char)
  | text (s : String)
  /-- The items of an array; a fault if reading stopped behind them. -/
  | array (items : List Document) (fault? : Option Fault)
  /-- The entries of an object; a fault if reading stopped behind them. -/
  | object (entries : List (String × Document)) (fault? : Option Fault)
  | broken (fault : Fault)
  deriving Repr

namespace Document

mutual

/-- Whether all of a document was read. -/
def isWhole : Document → Bool
  | array items fault? => fault?.isNone && allWhole items
  | object entries fault? => fault?.isNone && allEntriesWhole entries
  | broken _ => false
  | _ => true
termination_by structural d => d

/-- Whether all of the items were read. -/
def allWhole : List Document → Bool
  | [] => true
  | d :: rest => isWhole d && allWhole rest
termination_by structural items => items

/-- Whether all of the entries were read. -/
def allEntriesWhole : List (String × Document) → Bool
  | [] => true
  | (_, d) :: rest => isWhole d && allEntriesWhole rest
termination_by structural entries => entries

end

@[simp] theorem isWhole_array (items : List Document) (fault? : Option Fault) :
    isWhole (array items fault?) = (fault?.isNone && allWhole items) := rfl

@[simp] theorem isWhole_object (entries : List (String × Document)) (fault? : Option Fault) :
    isWhole (object entries fault?) = (fault?.isNone && allEntriesWhole entries) := rfl

/-- Whether an integer fits into sixty-four bits, with or without a sign. -/
def fitsWord (n : Int) : Bool := decide (-(Nat.pow 2 63 : Int) ≤ n ∧ n < Nat.pow 2 64)

/-- The name of the kind of a document. Integers that no machine word holds count as numbers with
decimal places. -/
def kindName : Document → String
  | null => "null"
  | bool _ => "bool"
  | int n => if fitsWord n then "int" else "float"
  | longInt _ | decimal _ => "float"
  | text _ => "str"
  | array .. => "array"
  | object .. => "object"
  | broken _ => "nothing"

/-- Whether a number is beyond the greatest floating-point number. -/
def overflows : Document → Bool
  | int n => (Number.Binary64.ofRatio false n.natAbs 1).isInfinite
  | longInt _ => true
  | decimal written =>
    ((Number.binary64? (String.ofList written)).map Number.Binary64.isInfinite).getD false
  | _ => false

end Document

end PackageBuild.Json
