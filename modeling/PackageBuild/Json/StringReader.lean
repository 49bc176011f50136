import PackageBuild.Json.Document
import PackageBuild.Text.Hex

/-!
# Reading JSON strings

A string is read character by character. A backslash starts an escape: a letter for a control
character, a quote or a slash, or the letter `u` and the four hexadecimal digits of a UTF-16 unit. A
unit of a surrogate pair must be followed by its partner.
-/

namespace PackageBuild.Json

/-- The number of bytes of a text. -/
def byteLength (s : List Char) : Nat := s.foldl (fun n c => n + c.utf8Size) 0

/-- What the reader of a string is in the middle of. -/
inductive StringState where
  | plain
  | escape
  /-- The unit of an escape, with digits to come, the value so far and the partner before it. -/
  | unit (missing value : Nat) (high? : Option Nat)
  | pair (high : Nat)
  /-- The partner of a unit is to come, behind its backslash. -/
  | pairEscape (high : Nat)

/-- The character of an escape with a letter. -/
def escaped? (c : Char) : Option Char :=
  if c = '\x22' ∨ c = '\x5c' ∨ c = '/' then some c
  else if c = 'b' then some '\x08'
  else if c = 'f' then some '\x0c'
  else if c = 'n' then some '\n'
  else if c = 'r' then some '\r'
  else if c = 't' then some '\t'
  else none

/-- What follows when a unit is complete: a character, or the wait for the partner. -/
def completeUnit (value : Nat) (high? : Option Nat) : Except Reason (Option Char × StringState) :=
  match high? with
  | some high =>
    if 0xDC00 ≤ value ∧ value ≤ 0xDFFF then
      .ok (some (Char.ofNat (0x10000 + ((high - 0xD800) * 0x400 + (value - 0xDC00)))), .plain)
    else .error .invalidSurrogates
  | none =>
    if 0xDC00 ≤ value ∧ value ≤ 0xDFFF then .error .invalidSurrogates
    else if 0xD800 ≤ value ∧ value ≤ 0xDBFF then .ok (none, .pair value)
    else .ok (some (Char.ofNat value), .plain)

/-- The characters of a string up to its closing quote, and the text behind it. -/
def readChars (state : StringState) : List Char → Except Fault (List Char × List Char)
  | [] => .error .truncated
  | c :: rest =>
    let go (char? : Option Char) (next : StringState) : Except Fault (List Char × List Char) :=
      (readChars next rest).map fun (s, tail) => (char?.toList ++ s, tail)
    match state with
    | .plain =>
      if c = '\x22' then .ok ([], rest)
      else if c = '\x5c' then go none .escape
      else if c.toNat < 0x20 then .error (.malformed .invalidCharacter (byteLength (c :: rest)))
      else go (some c) .plain
    | .escape =>
      if c = 'u' then
        if byteLength (rest.take 4) < 4 then .error .truncated else go none (.unit 4 0 none)
      else match escaped? c with
        | some char => go (some char) .plain
        | none => .error (.malformed .invalidEscape (byteLength (c :: rest) - 1))
    | .unit missing value high? =>
      match Text.hexValue? c with
      | none => .error (.malformed .invalidUnicodeEscape (byteLength (c :: rest) - 1))
      | some digit =>
        let value := 16 * value + digit
        if missing ≤ 1 then
          match completeUnit value high? with
          | .error reason => .error (.malformed reason (byteLength rest))
          | .ok (char?, .pair high) =>
            if byteLength (rest.take 6) < 6 then .error .truncated else go char? (.pair high)
          | .ok (char?, next) => go char? next
        else go none (.unit (missing - 1) value high?)
    | .pair high =>
      if c = '\x5c' then
        match rest with
        | 'u' :: _ => go none (.pairEscape high)
        | _ => .error (.malformed .lonelySurrogate (byteLength (c :: rest)))
      else .error (.malformed .lonelySurrogate (byteLength (c :: rest)))
    | .pairEscape high => go none (.unit 4 0 (some high))

/-- The string behind an opening quote, and the text behind it. -/
def readString (s : List Char) : Except Fault (String × List Char) :=
  (readChars .plain s).map fun (chars, rest) => (String.ofList chars, rest)

end PackageBuild.Json
