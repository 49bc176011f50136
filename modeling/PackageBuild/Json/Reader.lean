import PackageBuild.Json.StringReader
import PackageBuild.Text.Numeral

/-!
# Reading JSON

A text is read from the front into a document. Reading stops at the first fault, which the document
then holds in its place.

Main results:

- `skipBlanks_of_not_blank`: nothing is skipped in front of a character that is no blank.
-/

namespace PackageBuild.Json

open Number (spanDigits digitsValue)

/-- Whether a character may stand between the parts of a document. -/
def isBlank (c : Char) : Bool := c == ' ' || c == '\n' || c == '\r' || c == '\t'

/-- A text without the blanks in front. -/
def skipBlanks (s : List Char) : List Char := s.dropWhile isBlank

theorem skipBlanks_of_not_blank {c : Char} (h : isBlank c = false) (s : List Char) :
    skipBlanks (c :: s) = c :: s := by
  simp [skipBlanks, h]

/-- A document and the text behind it; no text when reading stopped inside. -/
abbrev ReadResult := Document × Option (List Char)

/-- Reading stopped. -/
def stopped (fault : Fault) : ReadResult := (.broken fault, none)

/-- Reading stopped in front of a text. -/
def stoppedAt (reason : Reason) (s : List Char) : ReadResult :=
  stopped (.malformed reason (byteLength s))

/-! ## Words and numbers -/

/-- Read the rest of a word behind its first letter. A wrong word is reported at the byte where the
right one would have ended. -/
def readWord (rest word : List Char) (document : Document) : ReadResult :=
  if byteLength (rest.take word.length) < word.length then stopped .truncated
  else if rest.take word.length = word then (document, some (rest.drop word.length))
  else stopped (.malformed .invalidCharacter (byteLength rest - word.length))

/-- Read the exponent of a number whose front part is given. -/
def readExponent (front : List Char) : List Char → ReadResult
  | [] => (.decimal front, some [])
  | c :: rest =>
    if c = 'e' ∨ c = 'E' then
      let (sign, rest) : List Char × List Char := match rest with
        | '-' :: rest => (['-'], rest)
        | '+' :: rest => (['+'], rest)
        | rest => ([], rest)
      let (digits, rest) := spanDigits rest
      if digits.isEmpty then stoppedAt .invalidNumber rest
      else (.decimal (front ++ c :: sign ++ digits), some rest)
    else (.decimal front, some (c :: rest))

/-- Read what follows the digits of a number. The sign counts towards the limit of digits. -/
def readFraction (negative : Bool) (whole : List Char) : List Char → ReadResult
  | '.' :: rest =>
    let (digits, rest) := spanDigits rest
    if digits.isEmpty then stoppedAt .invalidNumber rest
    else readExponent ((if negative then ['-'] else []) ++ whole ++ '.' :: digits) rest
  | 'e' :: rest => readExponent ((if negative then ['-'] else []) ++ whole) ('e' :: rest)
  | 'E' :: rest => readExponent ((if negative then ['-'] else []) ++ whole) ('E' :: rest)
  | rest =>
    let size := digitsValue whole
    let n : Int := if negative then -(size : Int) else size
    if Text.Numeral.digitLimit < whole.length + (if negative then 1 else 0) then
      (.longInt n, some rest)
    else (.int n, some rest)

/-- Read a number behind its sign, which may not stand at the end. -/
def readNumber (negative : Bool) (s : List Char) : ReadResult :=
  let (whole, rest) := spanDigits s
  match whole with
  | [] => stoppedAt (if s.isEmpty then .invalidNumber else .invalidCharacter) s
  | '0' :: next :: more => stoppedAt .invalidNumber (next :: more ++ rest)
  | whole => readFraction negative whole rest

/-! ## Documents -/

mutual

/-- Read a document; `fuel` bounds its depth and width. -/
def readDocument (fuel : Nat) (s : List Char) : ReadResult :=
  match fuel with
  | 0 => stopped .truncated
  | fuel + 1 =>
    match skipBlanks s with
    | [] => stopped .truncated
    | '\x22' :: rest =>
      match readString rest with
      | .ok (s, rest) => (.text s, some rest)
      | .error fault => stopped fault
    | '[' :: rest =>
      let (items, fault?, rest?) := readItems fuel true rest
      (.array items fault?, rest?)
    | '\x7b' :: rest =>
      let (entries, fault?, rest?) := readEntries fuel true rest
      (.object entries fault?, rest?)
    | 'n' :: rest => readWord rest ['u', 'l', 'l'] .null
    | 't' :: rest => readWord rest ['r', 'u', 'e'] (.bool true)
    | 'f' :: rest => readWord rest ['a', 'l', 's', 'e'] (.bool false)
    | '-' :: rest => readNumber true rest
    | s@(c :: _) => if c.isDigit then readNumber false s else stoppedAt .invalidCharacter s

/-- Read one item of an array and those behind it. -/
def readItemsFrom (fuel : Nat) (s : List Char) :
    List Document × Option Fault × Option (List Char) :=
  match fuel with
  | 0 => ([], some .truncated, none)
  | fuel + 1 =>
    match readDocument fuel s with
    | (item, none) => ([item], none, none)
    | (item, some rest) =>
      let (items, fault?, rest?) := readItems fuel false rest
      (item :: items, fault?, rest?)

/-- Read the items of an array behind its bracket or behind an item. -/
def readItems (fuel : Nat) (first : Bool) (s : List Char) :
    List Document × Option Fault × Option (List Char) :=
  match fuel with
  | 0 => ([], some .truncated, none)
  | fuel + 1 =>
    match skipBlanks s with
    | [] => ([], some .truncated, none)
    | ']' :: rest => ([], none, some rest)
    | c :: rest =>
      if first then readItemsFrom fuel (c :: rest)
      else if c = ',' then
        match skipBlanks rest with
        | [] => ([], some .truncated, none)
        | ']' :: rest =>
          ([], some (.malformed .trailingCommaInArray (byteLength (']' :: rest))), none)
        | s => readItemsFrom fuel s
      else ([], some (.malformed .expectedCommaOrBracket (byteLength (c :: rest))), none)

/-- Read one entry of an object and those behind it. -/
def readEntriesFrom (fuel : Nat) (s : List Char) :
    List (String × Document) × Option Fault × Option (List Char) :=
  match fuel with
  | 0 => ([], some .truncated, none)
  | fuel + 1 =>
    match s with
    | '\x22' :: rest =>
      match readString rest with
      | .error fault => ([], some fault, none)
      | .ok (key, rest) =>
        match skipBlanks rest with
        | [] => ([], some .truncated, none)
        | ':' :: rest =>
          match readDocument fuel rest with
          | (value, none) => ([(key, value)], none, none)
          | (value, some rest) =>
            let (entries, fault?, rest?) := readEntries fuel false rest
            ((key, value) :: entries, fault?, rest?)
        | s => ([], some (.malformed .expectedColon (byteLength s)), none)
    | '\x7d' :: _ => ([], some (.malformed .trailingCommaInObject (byteLength s)), none)
    | s => ([], some (.malformed .keyNotString (byteLength s)), none)

/-- Read the entries of an object behind its brace or behind an entry. -/
def readEntries (fuel : Nat) (first : Bool) (s : List Char) :
    List (String × Document) × Option Fault × Option (List Char) :=
  match fuel with
  | 0 => ([], some .truncated, none)
  | fuel + 1 =>
    match skipBlanks s with
    | [] => ([], some .truncated, none)
    | '\x7d' :: rest => ([], none, some rest)
    | c :: rest =>
      if first then readEntriesFrom fuel (c :: rest)
      else if c = ',' then
        match skipBlanks rest with
        | [] => ([], some .truncated, none)
        | s => readEntriesFrom fuel s
      else ([], some (.malformed .expectedCommaOrBrace (byteLength (c :: rest))), none)

end

/-- The document in front of a text and the text behind it. -/
def read (s : List Char) : ReadResult := readDocument (3 * s.length + 3) s

/-- The document that a whole text is, if it is one. -/
def document? (text : String) : Option Document :=
  match read text.toList with
  | (document, some rest) =>
    if (skipBlanks rest).isEmpty && document.isWhole then some document else none
  | (_, none) => none

end PackageBuild.Json
