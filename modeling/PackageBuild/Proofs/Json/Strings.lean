import Mathlib.Tactic.IntervalCases
import Mathlib.Tactic.SplitIfs
import PackageBuild.Json.Escape
import PackageBuild.Json.StringReader

/-!
# Strings read back

The reader of strings undoes every escape that the writer makes: letters for control characters, the
four digits of a UTF-16 unit, and the two units of a surrogate pair.

Main results:

- Theorem `readChars_escapeChar`: a character is read back, whatever follows.
- Theorem `readString_escaped`: a string is read back, and the reader stands behind its quote.
-/

namespace PackageBuild.Json

open Text (CodePoint)

/-- A character in front of what was read. -/
def readCons (c : Char) (result : Except Fault (List Char × List Char)) :
    Except Fault (List Char × List Char) :=
  result.map fun (s, tail) => (c :: s, tail)

/-- A step that gives no character leaves what is read behind it. -/
theorem map_none_append (result : Except Fault (List Char × List Char)) :
    (result.map fun (s, tail) => ((none : Option Char).toList ++ s, tail)) = result := by
  cases result <;> rfl

variable {rest : List Char}

/-! ## Characters without a unit -/

/-- A character that needs no escape stands for itself. -/
theorem readChars_plain {c : Char} (quote : c ≠ '\x22') (slash : c ≠ '\x5c')
    (low : 0x20 ≤ c.toNat) : readChars .plain (c :: rest) = readCons c (readChars .plain rest) := by
  simp only [readChars, quote, slash, if_false, Nat.not_lt.2 low]
  rfl

/-- A letter behind a backslash stands for its character. -/
theorem readChars_letter {letter c : Char} (hu : letter ≠ 'u') (h : escaped? letter = some c) :
    readChars .plain ('\x5c' :: letter :: rest) = readCons c (readChars .plain rest) := by
  rw [readChars]
  simp only [if_true, if_false, Char.reduceEq, map_none_append]
  rw [readChars]
  simp only [hu, h, if_false]
  rfl

/-! ## Units -/

/-- A digit takes one byte. -/
theorem utf8Size_hexDigit {d : Nat} (h : d < 16) : (Text.hexDigit d).utf8Size = 1 := by
  interval_cases d <;> decide

/-- The four digits of a unit. -/
theorem hexFixed_four (n : Nat) :
    Text.hexFixed 4 n = [Text.hexDigit (n / 16 / 16 / 16 % 16), Text.hexDigit (n / 16 / 16 % 16),
      Text.hexDigit (n / 16 % 16), Text.hexDigit (n % 16)] := rfl

/-- A unit in front of a text is complete. -/
theorem byteLength_take_hexFixed (n : Nat) (rest : List Char) :
    byteLength ((Text.hexFixed 4 n ++ rest).take 4) = 4 := by
  have hsize (m : Nat) : (Text.hexDigit (m % 16)).utf8Size = 1 :=
    utf8Size_hexDigit (Nat.mod_lt m (by decide))
  rw [List.take_append_of_le_length (by simp), List.take_of_length_le (by simp)]
  simp only [hexFixed_four, byteLength, List.foldl_cons, List.foldl_nil, hsize]

/-- An escape takes six bytes. -/
theorem byteLength_take_escapeUnit (n : Nat) (rest : List Char) :
    byteLength ((escapeUnit n ++ rest).take 6) = 6 := by
  have hslash : '\x5c'.utf8Size = 1 := by decide
  have hu : 'u'.utf8Size = 1 := by decide
  have hsize (m : Nat) : (Text.hexDigit (m % 16)).utf8Size = 1 :=
    utf8Size_hexDigit (Nat.mod_lt m (by decide))
  rw [List.take_append_of_le_length (by simp [escapeUnit]),
    List.take_of_length_le (by simp [escapeUnit])]
  simp only [escapeUnit, hexFixed_four, byteLength, List.foldl_cons, List.foldl_nil, hslash, hu,
    hsize]

/-- A digit of a unit is read before the last one. -/
theorem readChars_digit {missing value d : Nat} {high? : Option Nat} (hd : d < 16)
    (hmissing : 1 < missing) :
    readChars (.unit missing value high?) (Text.hexDigit d :: rest) =
      readChars (.unit (missing - 1) (16 * value + d) high?) rest := by
  rw [readChars]
  simp only [Text.hexValue?_hexDigit hd, Nat.not_le.2 hmissing, if_false, map_none_append]

/-- All digits of a unit but the last one are put together. -/
theorem readChars_hexFixed {n : Nat} (h : n < 0x10000) (high? : Option Nat) :
    readChars (.unit 4 0 high?) (Text.hexFixed 4 n ++ rest) =
      readChars (.unit 1 (n / 16) high?) (Text.hexDigit (n % 16) :: rest) := by
  have hdigit (m : Nat) : m % 16 < 16 := Nat.mod_lt m (by decide)
  have hvalue : 16 * (16 * (16 * 0 + n / 16 / 16 / 16 % 16) + n / 16 / 16 % 16) + n / 16 % 16 =
      n / 16 := by
    omega
  rw [hexFixed_four, List.cons_append, List.cons_append, List.cons_append, List.cons_append,
    readChars_digit (hdigit _) (by decide), readChars_digit (hdigit _) (by decide),
    readChars_digit (hdigit _) (by decide), hvalue, List.nil_append]

/-- An escape begins a unit of four digits. -/
theorem readChars_backslash_u {n : Nat} :
    readChars .plain (escapeUnit n ++ rest) =
      readChars (.unit 4 0 none) (Text.hexFixed 4 n ++ rest) := by
  rw [escapeUnit, List.cons_append, List.cons_append, readChars]
  simp only [Char.reduceEq, if_true, if_false, map_none_append]
  rw [readChars]
  simp only [if_true, byteLength_take_hexFixed, Nat.lt_irrefl, if_false, map_none_append]

/-- A unit that is no surrogate stands for its character. -/
theorem readChars_escapeUnit {n : Nat} (h : n < 0x10000) (hlow : ¬(0xDC00 ≤ n ∧ n ≤ 0xDFFF))
    (hhigh : ¬(0xD800 ≤ n ∧ n ≤ 0xDBFF)) :
    readChars .plain (escapeUnit n ++ rest) = readCons (Char.ofNat n) (readChars .plain rest) := by
  have hvalue : 16 * (n / 16) + n % 16 = n := Nat.div_add_mod n 16
  rw [readChars_backslash_u, readChars_hexFixed h, readChars]
  simp only [Text.hexValue?_hexDigit (Nat.mod_lt n (by decide)), hvalue, Nat.le_refl, if_true,
    completeUnit, hlow, hhigh, if_false]
  rfl

/-- Two units of a surrogate pair stand for one character. -/
theorem readChars_pair {high low : Nat} (hhigh : 0xD800 ≤ high ∧ high ≤ 0xDBFF)
    (hlow : 0xDC00 ≤ low ∧ low ≤ 0xDFFF) :
    readChars .plain (escapeUnit high ++ (escapeUnit low ++ rest)) =
      readCons (Char.ofNat (0x10000 + ((high - 0xD800) * 0x400 + (low - 0xDC00))))
        (readChars .plain rest) := by
  have hnot : ¬(0xDC00 ≤ high ∧ high ≤ 0xDFFF) := by omega
  have hvalue (n : Nat) : 16 * (n / 16) + n % 16 = n := Nat.div_add_mod n 16
  have hlast (n : Nat) : Text.hexValue? (Text.hexDigit (n % 16)) = some (n % 16) :=
    Text.hexValue?_hexDigit (Nat.mod_lt n (by decide))
  have hfirst : readChars .plain (escapeUnit high ++ (escapeUnit low ++ rest)) =
      readChars (.pair high) (escapeUnit low ++ rest) := by
    rw [readChars_backslash_u, readChars_hexFixed (by omega), readChars]
    simp only [hlast, hvalue, Nat.le_refl, if_true, completeUnit, hnot, hhigh, and_self, if_false,
      byteLength_take_escapeUnit, Nat.lt_irrefl, map_none_append]
  have hsecond : readChars (.pair high) (escapeUnit low ++ rest) =
      readChars (.unit 4 0 (some high)) (Text.hexFixed 4 low ++ rest) := by
    rw [escapeUnit, List.cons_append, List.cons_append, readChars]
    simp only [if_true, map_none_append]
    rw [readChars]
    simp only [map_none_append]
  rw [hfirst, hsecond, readChars_hexFixed (by omega), readChars]
  simp only [hlast, hvalue, Nat.le_refl, if_true, completeUnit, hlow, and_self]
  rfl

/-! ## Whole strings -/

/-- The units of a character that no plain form stands for are read back. -/
theorem readChars_units (c : Char) :
    readChars .plain ((utf16Units (.ofChar c)).flatMap escapeUnit ++ rest) =
      readCons c (readChars .plain rest) := by
  have hvalid : c.toNat < 0xD800 ∨ 0xDFFF < c.toNat ∧ c.toNat < 0x110000 := c.valid
  by_cases hsmall : c.toNat < 0x10000
  · have hunits : (utf16Units (.ofChar c)).flatMap escapeUnit = escapeUnit c.toNat := by
      simp [utf16Units, hsmall]
    rw [hunits, readChars_escapeUnit hsmall (by omega) (by omega), Char.ofNat_toNat]
  · have hunits : (utf16Units (.ofChar c)).flatMap escapeUnit =
        escapeUnit (0xD800 + (c.toNat - 0x10000) / 0x400) ++
          escapeUnit (0xDC00 + (c.toNat - 0x10000) % 0x400) := by
      simp [utf16Units, hsmall]
    have hvalue : 0x10000 + ((0xD800 + (c.toNat - 0x10000) / 0x400 - 0xD800) * 0x400 +
        (0xDC00 + (c.toNat - 0x10000) % 0x400 - 0xDC00)) = c.toNat := by
      omega
    rw [hunits, List.append_assoc, readChars_pair (by omega) (by omega), hvalue, Char.ofNat_toNat]

/-- What stands behind the backslash of a short escape is read back as the character. -/
theorem escaped?_of_shortEscape? {c letter : Char} (h : shortEscape? (.ofChar c) = some letter) :
    letter ≠ 'u' ∧ escaped? letter = some c := by
  have hread {n : Nat} (hn : c.toNat = n) (hescaped : escaped? letter = some (Char.ofNat n)) :
      escaped? letter = some c := by
    rw [hescaped, ← hn, Char.ofNat_toNat]
  unfold shortEscape? at h
  split_ifs at h <;> cases h <;>
    exact ⟨by decide, hread (by assumption) (by decide)⟩

/-- A character without a short escape is neither the quote nor the backslash. -/
theorem ne_of_shortEscape?_eq_none {c : Char} (h : shortEscape? (.ofChar c) = none) :
    c ≠ '\x22' ∧ c ≠ '\x5c' := by
  constructor <;> (rintro rfl; contradiction)

/-- A character is read back, whatever follows. -/
theorem readChars_escapeChar (c : Char) :
    readChars .plain (escapeChar c ++ rest) = readCons c (readChars .plain rest) := by
  rw [escapeChar, escapePoint]
  cases hshort : shortEscape? (.ofChar c) with
  | some letter =>
    obtain ⟨hu, hescaped⟩ := escaped?_of_shortEscape? hshort
    exact readChars_letter hu hescaped
  | none =>
    obtain ⟨quote, slash⟩ := ne_of_shortEscape?_eq_none hshort
    simp only [CodePoint.val_ofChar, Char.ofNat_toNat]
    split
    · next hplain => exact readChars_plain quote slash hplain.1
    · exact readChars_units c

/-- The characters of a string are read back up to its closing quote. -/
theorem readChars_flatMap (s : List Char) :
    readChars .plain (s.flatMap escapeChar ++ '\x22' :: rest) = .ok (s, rest) := by
  induction s with
  | nil => rfl
  | cons c s ih =>
    rw [List.flatMap_cons, List.append_assoc, readChars_escapeChar, ih]
    rfl

/-- A string has a quote in front, the escapes of its code points, and a quote behind. -/
theorem toList_stringOf (points : List CodePoint) :
    (stringOf points).toList = '\x22' :: (points.flatMap escapePoint ++ ['\x22']) := by
  simp [stringOf]

/-- The string of a text has a quote in front, the escapes of its characters, and a quote behind. -/
theorem toList_string (s : String) :
    (string s).toList = '\x22' :: (s.toList.flatMap escapeChar ++ ['\x22']) := by
  rw [string, toList_stringOf, Text.codePoints, List.flatMap_map]
  rfl

/-! ## Surrogates -/

/-- The character that a high and a low surrogate stand for in UTF-16. -/
def pairedChar (high low : CodePoint) : Char :=
  Char.ofNat (0x10000 + ((high.val - 0xD800) * 0x400 + (low.val - 0xDC00)))

/-- A code point beyond ASCII in one unit is escaped by that unit. -/
theorem escapePoint_of_unit {p : CodePoint} (hlow : 0x7E < p.val) (hhigh : p.val < 0x10000) :
    escapePoint p = escapeUnit p.val := by
  have hshort : shortEscape? p = none := by
    unfold shortEscape?
    split_ifs <;> first | rfl | omega
  have hplain : ¬(0x20 ≤ p.val ∧ p.val ≤ 0x7E) := by omega
  rw [escapePoint, hshort]
  simp only [hplain, if_false, utf16Units, if_pos hhigh, List.flatMap_singleton]

/-- The number of the character that a high and a low surrogate stand for. -/
theorem toNat_pairedChar {high low : CodePoint} (hhigh : 0xD800 ≤ high.val ∧ high.val ≤ 0xDBFF)
    (hlow : 0xDC00 ≤ low.val ∧ low.val ≤ 0xDFFF) : (pairedChar high low).toNat =
      0x10000 + ((high.val - 0xD800) * 0x400 + (low.val - 0xDC00)) := by
  exact Text.toNat_ofNat (.inr ⟨by omega, by omega⟩)

/-- A character beyond the first plane is written by its two units. -/
theorem escapePoint_of_large {p : CodePoint} (h : 0x10000 ≤ p.val) :
    escapePoint p = escapeUnit (0xD800 + (p.val - 0x10000) / 0x400) ++
      escapeUnit (0xDC00 + (p.val - 0x10000) % 0x400) := by
  have hshort : shortEscape? p = none := by
    unfold shortEscape?
    split_ifs <;> first | rfl | omega
  have hplain : ¬(0x20 ≤ p.val ∧ p.val ≤ 0x7E) := by omega
  rw [escapePoint, hshort]
  simp only [hplain, if_false, utf16Units, if_neg (Nat.not_lt.2 h), List.flatMap_cons,
    List.flatMap_nil, List.append_nil]

/-- A high and a low surrogate are written like the character that they stand for. -/
theorem escapePoint_pair {high low : CodePoint} (hhigh : 0xD800 ≤ high.val ∧ high.val ≤ 0xDBFF)
    (hlow : 0xDC00 ≤ low.val ∧ low.val ≤ 0xDFFF) :
    escapePoint high ++ escapePoint low = escapeChar (pairedChar high low) := by
  have hvalue : (CodePoint.ofChar (pairedChar high low)).val =
      0x10000 + ((high.val - 0xD800) * 0x400 + (low.val - 0xDC00)) := by
    rw [CodePoint.val_ofChar, toNat_pairedChar hhigh hlow]
  have hfirst : 0xD800 + ((high.val - 0xD800) * 0x400 + (low.val - 0xDC00)) / 0x400 = high.val := by
    omega
  have hsecond : 0xDC00 + ((high.val - 0xD800) * 0x400 + (low.val - 0xDC00)) % 0x400 = low.val := by
    omega
  rw [escapePoint_of_unit (by omega) (by omega), escapePoint_of_unit (by omega) (by omega),
    escapeChar, escapePoint_of_large (by omega), hvalue, Nat.add_sub_cancel_left, hfirst, hsecond]

/-- So the two of them are written like the text of that character. -/
theorem stringOf_pair {high low : CodePoint} (hhigh : 0xD800 ≤ high.val ∧ high.val ≤ 0xDBFF)
    (hlow : 0xDC00 ≤ low.val ∧ low.val ≤ 0xDFFF) :
    stringOf [high, low] = string (String.singleton (pairedChar high low)) := by
  have hpair := escapePoint_pair hhigh hlow
  rw [← String.toList_inj, toList_stringOf, toList_string, String.toList_singleton,
    List.flatMap_cons, List.flatMap_singleton, List.flatMap_singleton, hpair]

/-! ## Strings behind their quote -/

/-- A string is read back, and the reader stands behind its quote. -/
theorem readString_escaped (s : String) (rest : List Char) :
    readString (s.toList.flatMap escapeChar ++ '\x22' :: rest) = .ok (s, rest) := by
  rw [readString, readChars_flatMap]
  simp [Except.map]

end PackageBuild.Json
