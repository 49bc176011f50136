import PackageBuild.Text.CodePoint
import PackageBuild.Text.Hex

/-!
# JSON strings

A string is written in printable ASCII: the quote and the backslash escaped with a backslash, five
control characters by letter, and every other code point outside the printable ASCII range by its
UTF-16 code units.

Main results:

- `stringOf` and `string`: any list of code points, and any text, as a string.
-/

namespace PackageBuild.Json

open Text (CodePoint)

/-- A UTF-16 code unit as an escape. -/
def escapeUnit (unit : Nat) : List Char := '\x5c' :: 'u' :: Text.hexFixed 4 unit

/-- The UTF-16 code units of a code point; a surrogate is a unit of its own. -/
def utf16Units (p : CodePoint) : List Nat :=
  if p.val < 0x10000 then [p.val]
  else [0xD800 + (p.val - 0x10000) / 0x400, 0xDC00 + (p.val - 0x10000) % 0x400]

/-- What stands behind a backslash for a code point with a short escape. -/
def shortEscape? (p : CodePoint) : Option Char :=
  if p.val = 0x22 then some '\x22'
  else if p.val = 0x5C then some '\x5c'
  else if p.val = 0x0A then some 'n'
  else if p.val = 0x0D then some 'r'
  else if p.val = 0x09 then some 't'
  else if p.val = 0x0C then some 'f'
  else if p.val = 0x08 then some 'b'
  else none

/-- A code point as it stands in a string. -/
def escapePoint (p : CodePoint) : List Char :=
  match shortEscape? p with
  | some letter => ['\x5c', letter]
  | none =>
    if 0x20 ≤ p.val ∧ p.val ≤ 0x7E then [Char.ofNat p.val]
    else (utf16Units p).flatMap escapeUnit

/-- A character as it stands in a string. -/
def escapeChar (c : Char) : List Char := escapePoint (.ofChar c)

/-- Code points as a string, surrogates included. -/
def stringOf (points : List CodePoint) : String :=
  String.ofList ('\x22' :: points.flatMap escapePoint ++ ['\x22'])

/-- A text as a string. -/
def string (s : String) : String := stringOf (Text.codePoints s)

end PackageBuild.Json
