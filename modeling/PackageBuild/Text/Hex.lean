/-!
# Hexadecimal text

Numbers in lower-case hexadecimal digits of a fixed width, most significant digit first, and the
reading of such digits, also as bytes.

Main results:

- `length_hexFixed`: a number is written in exactly the digits asked for.
- `readHex?_hexFixed`: reading gives the number back, as far as the width holds it.
-/

namespace PackageBuild.Text

/-- The lower-case hexadecimal digit of a value below sixteen. -/
def hexDigit (n : Nat) : Char :=
  if n < 10 then Char.ofNat (48 + n) else Char.ofNat (87 + n)

/-- The value of a hexadecimal digit of either case. -/
def hexValue? (c : Char) : Option Nat :=
  if '0' ≤ c ∧ c ≤ '9' then some (c.toNat - 48)
  else if 'a' ≤ c ∧ c ≤ 'f' then some (c.toNat - 87)
  else if 'A' ≤ c ∧ c ≤ 'F' then some (c.toNat - 55)
  else none

/-- The last `width` hexadecimal digits of a number. -/
def hexFixed : Nat → Nat → List Char
  | 0, _ => []
  | width + 1, n => hexFixed width (n / 16) ++ [hexDigit (n % 16)]

/-- Read hexadecimal digits on top of a value read before. -/
def readHexFrom? (before : Nat) : List Char → Option Nat
  | [] => some before
  | c :: rest => (hexValue? c).bind fun d => readHexFrom? (16 * before + d) rest

/-- The number written in hexadecimal digits; `none` if a character is no digit. -/
def readHex? (digits : List Char) : Option Nat := readHexFrom? 0 digits

/-! ## Bytes -/

/-- A text that writes no bytes, and the place of the first character that does not fit. -/
structure HexMisread where
  place : Nat
  deriving DecidableEq, Repr

/-- The text about a text that writes no bytes. -/
def HexMisread.message (e : HexMisread) : String :=
  "non-hexadecimal number found in fromhex() arg at position " ++ toString e.place

/-- Whether a character may stand between two bytes. -/
def isHexBlank (c : Char) : Bool := c == ' ' || ('\t' ≤ c && c ≤ '\r')

/-- The bytes that a text of ASCII writes behind a place: two digits each, with blanks between them.
-/
def readHexPairs (place : Nat) : List Char → Except HexMisread (List UInt8)
  | [] => .ok []
  | c :: rest =>
    if isHexBlank c then readHexPairs (place + 1) rest
    else match hexValue? c, rest with
      | none, _ => .error ⟨place⟩
      | some _, [] => .error ⟨place + 1⟩
      | some high, d :: rest =>
        match hexValue? d with
        | none => .error ⟨place + 1⟩
        | some low => (readHexPairs (place + 2) rest).map ((16 * high + low).toUInt8 :: ·)

/-- The bytes that a text writes; a character beyond ASCII is reported before anything else. -/
def readHexBytes (text : String) : Except HexMisread (List UInt8) :=
  let s := text.toList
  match s.findIdx? fun c => 0x80 ≤ c.toNat with
  | some place => .error ⟨place⟩
  | none => readHexPairs 0 s

@[simp] theorem length_hexFixed (width n : Nat) : (hexFixed width n).length = width := by
  induction width generalizing n with
  | zero => rfl
  | succ width ih => simp [hexFixed, ih]

theorem hexValue?_hexDigit {n : Nat} (h : n < 16) : hexValue? (hexDigit n) = some n := by
  revert h
  revert n
  decide

theorem readHexFrom?_append (before : Nat) (s t : List Char) :
    readHexFrom? before (s ++ t) = (readHexFrom? before s).bind (readHexFrom? · t) := by
  induction s generalizing before with
  | nil => rfl
  | cons c s ih =>
    cases h : hexValue? c with
    | none => simp [readHexFrom?, h]
    | some d => simp [readHexFrom?, h, ih]

/-- Reading fixed-width digits gives the number back, as far as the width holds it. -/
theorem readHex?_hexFixed (width n : Nat) :
    readHex? (hexFixed width n) = some (n % Nat.pow 16 width) := by
  induction width generalizing n with
  | zero => simp [readHex?, hexFixed, readHexFrom?, Nat.mod_one]
  | succ width ih =>
    have hd : hexValue? (hexDigit (n % 16)) = some (n % 16) :=
      hexValue?_hexDigit (Nat.mod_lt _ (by decide))
    have ih' := ih (n / 16)
    simp only [readHex?] at ih' ⊢
    simp only [hexFixed, readHexFrom?_append, ih', Option.bind_some, readHexFrom?, hd,
      Option.some.injEq]
    have hpow : Nat.pow 16 (width + 1) = 16 * Nat.pow 16 width := Nat.mul_comm _ _
    rw [hpow, Nat.mod_mul, Nat.add_comm]

end PackageBuild.Text
