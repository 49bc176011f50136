import PackageBuild.Text.Hex
import PackageBuild.Text.Printable

/-!
# Quoted text

The display form of a text: between single quotes, or between double quotes when the text holds a
single quote and no double one. Inside, the quote and the backslash are escaped with a backslash,
and characters that are not printable by name or by code point.
-/

namespace PackageBuild.Text

/-- The quote that a text is shown in. -/
def quoteFor (s : List Char) : Char :=
  if '\x27' ∈ s ∧ '\x22' ∉ s then '\x22' else '\x27'

/-- A character as it stands between the given quotes. -/
def escapeChar (quote c : Char) : List Char :=
  if c = quote ∨ c = '\x5c' then ['\x5c', c]
  else if c = '\t' then ['\x5c', 't']
  else if c = '\n' then ['\x5c', 'n']
  else if c = '\r' then ['\x5c', 'r']
  else if isPrintable c then [c]
  else if c.toNat ≤ 0xFF then '\x5c' :: 'x' :: hexFixed 2 c.toNat
  else if c.toNat ≤ 0xFFFF then '\x5c' :: 'u' :: hexFixed 4 c.toNat
  else '\x5c' :: 'U' :: hexFixed 8 c.toNat

/-- The display form of a list of characters. -/
def quotedChars (s : List Char) : List Char :=
  quoteFor s :: s.flatMap (escapeChar (quoteFor s)) ++ [quoteFor s]

/-- The display form of a text. -/
def quoted (s : String) : String := String.ofList (quotedChars s.toList)

/-- The display form of bytes uses the same quotes and escapes all but printable ASCII. -/
def escapeByte (quote : Char) (b : UInt8) : List Char :=
  let c := Char.ofNat b.toNat
  if c = quote ∨ c = '\x5c' then ['\x5c', c]
  else if c = '\t' then ['\x5c', 't']
  else if c = '\n' then ['\x5c', 'n']
  else if c = '\r' then ['\x5c', 'r']
  else if 0x20 ≤ b.toNat ∧ b.toNat < 0x7F then [c]
  else '\x5c' :: 'x' :: hexFixed 2 b.toNat

/-- The display form of bytes, which a letter tells from text. -/
def quotedBytes (bytes : List UInt8) : String :=
  let quote := quoteFor (bytes.map fun b => Char.ofNat b.toNat)
  String.ofList ('b' :: quote :: bytes.flatMap (escapeByte quote) ++ [quote])

end PackageBuild.Text
