import PackageBuild.Proofs.Json.Spelling

/-!
# Printable documents

Strings and integers are written in the characters from the blank to the tilde, whatever characters
a string holds.  A text that spells a document of which nothing is missing is a JSON text.

Main results:

- Theorems `printable_string` and `printable_integerText`: what is written in printable ASCII.
- Theorem `printable_joined`: printable texts put together.
- Theorem `Spells.document?_eq`: a text that spells a whole document is one.
-/

namespace PackageBuild.Json

/-! ## Printable ASCII -/

/-- A character from the blank to the tilde. -/
def IsPrintable (c : Char) : Prop := 0x20 ≤ c.toNat ∧ c.toNat ≤ 0x7E

instance (c : Char) : Decidable (IsPrintable c) := inferInstanceAs (Decidable (_ ∧ _))

/-- The characters from the space to the tilde are printable. -/
theorem isPrintable_ofNat {n : Nat} (h : 0x20 ≤ n ∧ n ≤ 0x7E) : IsPrintable (Char.ofNat n) := by
  have hvalid : n.isValidChar := .inl (by omega)
  rwa [IsPrintable, Text.toNat_ofNat hvalid]

/-- A text of such characters only. -/
def Printable (s : String) : Prop := ∀ c ∈ s.toList, IsPrintable c

instance (s : String) : Decidable (Printable s) := List.decidableBAll IsPrintable s.toList

/-- Printable texts are printable together. -/
theorem Printable.append {s t : String} (hs : Printable s) (ht : Printable t) :
    Printable (s ++ t) := by
  intro c hc
  rw [String.toList_append, List.mem_append] at hc
  exact hc.elim (hs c) (ht c)

/-- Printable pieces with a printable separator between them are printable. -/
theorem printable_joined {separator : String} (hseparator : Printable separator)
    {pieces : List String} (h : ∀ piece ∈ pieces, Printable piece) :
    Printable (Text.joined separator pieces) := by
  induction pieces with
  | nil => simp [Printable]
  | cons piece rest ih =>
    obtain ⟨hfirst, hrest⟩ := List.forall_mem_cons.1 h
    cases rest with
    | nil => exact hfirst
    | cons next rest => exact (hfirst.append hseparator).append (ih hrest)

/-- Digits are printable. -/
theorem isPrintable_hexDigit {d : Nat} (h : d < 16) : IsPrintable (Text.hexDigit d) := by
  interval_cases d <;> decide

/-- Numbers in hexadecimal digits are printable. -/
theorem isPrintable_of_mem_hexFixed {width n : Nat} {c : Char} (h : c ∈ Text.hexFixed width n) :
    IsPrintable c := by
  induction width generalizing n with
  | zero => cases h
  | succ width ih =>
    rw [Text.hexFixed, List.mem_append, List.mem_singleton] at h
    rcases h with h | rfl
    · exact ih h
    · exact isPrintable_hexDigit (Nat.mod_lt n (by decide))

/-- Whatever a code point is, it stands for printable characters in a string. -/
theorem isPrintable_of_mem_escapePoint {p : Text.CodePoint} {c : Char} (h : c ∈ escapePoint p) :
    IsPrintable c := by
  unfold escapePoint at h
  split at h
  · next letter hshort =>
    have hletter : IsPrintable letter := by
      unfold shortEscape? at hshort
      split_ifs at hshort <;> cases hshort <;> decide
    rcases List.mem_cons.1 h with rfl | h
    · decide
    · rwa [List.mem_singleton.1 h]
  split at h
  · next hplain =>
    rw [List.mem_singleton.1 h]
    exact isPrintable_ofNat hplain
  · obtain ⟨unit, -, hunit⟩ := List.mem_flatMap.1 h
    rw [escapeUnit, List.mem_cons, List.mem_cons] at hunit
    rcases hunit with rfl | rfl | hunit
    · decide
    · decide
    · exact isPrintable_of_mem_hexFixed hunit

/-- A string is written in printable ASCII, whatever code points it has. -/
theorem printable_stringOf (points : List Text.CodePoint) : Printable (stringOf points) := by
  intro c hc
  rw [toList_stringOf, List.mem_cons, List.mem_append, List.mem_singleton] at hc
  rcases hc with rfl | hc | rfl
  · decide
  · obtain ⟨p, -, hp⟩ := List.mem_flatMap.1 hc
    exact isPrintable_of_mem_escapePoint hp
  · decide

/-- Every string is written in printable ASCII. -/
theorem printable_string (s : String) : Printable (string s) := printable_stringOf _

/-- Decimal digits are printable. -/
theorem isPrintable_of_isDigit {c : Char} (h : c.isDigit = true) : IsPrintable c := by
  simp only [Char.isDigit, Bool.and_eq_true, decide_eq_true_eq] at h
  have hlow : 48 ≤ c.toNat := UInt32.le_iff_toNat_le.1 h.1
  have hhigh : c.toNat ≤ 57 := UInt32.le_iff_toNat_le.1 h.2
  exact ⟨by omega, by omega⟩

/-- Integers are written in printable ASCII. -/
theorem printable_integerText (n : Int) : Printable (Text.integerText n) := by
  have hdigits {c : Char} (hc : c ∈ Text.naturalDigits n.natAbs) : IsPrintable c :=
    isPrintable_of_isDigit (isDigit_of_mem_naturalDigits hc)
  intro c hc
  rw [Text.integerText, String.toList_ofList, Text.integerDigits] at hc
  split at hc
  · rcases List.mem_cons.1 hc with rfl | hc
    · decide
    · exact hdigits hc
  · exact hdigits hc

/-! ## Whole documents -/

/-- Items are whole when each of them is. -/
theorem allWhole_iff {items : List Document} :
    Document.allWhole items = true ↔ ∀ d ∈ items, d.isWhole = true := by
  induction items with
  | nil => simp [Document.allWhole]
  | cons d rest ih => rw [Document.allWhole, Bool.and_eq_true, ih, List.forall_mem_cons]

/-- Entries are whole when each of their values is. -/
theorem allEntriesWhole_iff {entries : List (String × Document)} :
    Document.allEntriesWhole entries = true ↔ ∀ entry ∈ entries, entry.2.isWhole = true := by
  induction entries with
  | nil => simp [Document.allEntriesWhole]
  | cons entry rest ih => rw [Document.allEntriesWhole, Bool.and_eq_true, ih, List.forall_mem_cons]

/-- A text that spells a whole document is one. -/
theorem Spells.document?_eq {text : String} {d : Document} (h : Spells text d)
    (hwhole : d.isWhole = true) : document? text = some d := by
  simp [document?, h.read_eq, hwhole, skipBlanks]

end PackageBuild.Json
