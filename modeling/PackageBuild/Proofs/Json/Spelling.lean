import PackageBuild.Proofs.Json.Integers
import PackageBuild.Proofs.Json.Strings
import PackageBuild.Text.Split

/-!
# Documents read back

A text spells a document when a reader finds the document in front of anything that may follow,
given fuel for three steps for each character.  Words, integers and strings spell what they say, and
texts with commas between them spell an array, or an object when keys stand before them.

Main results:

- Theorems `spells_null`, `spells_bool`, `spells_integer` and `spells_string`: single documents.
- Theorems `spells_array` and `spells_object`: documents with others inside.
- Theorem `Spells.read_eq`: a text that spells a document is read as the document.
-/

namespace PackageBuild.Json

open Text (joined naturalDigits integerDigits integerText)

/-- A text spells a document, whatever text follows behind which a number may end. -/
structure Spells (text : String) (d : Document) : Prop where
  /-- The text begins with a character that is neither a blank nor the end of an array. -/
  starts : ∃ c s, text.toList = c :: s ∧ isBlank c = false ∧ c ≠ ']'
  reads : ∀ {fuel : Nat} {rest : List Char}, 3 * text.toList.length ≤ fuel → EndsNumber rest →
    readDocument fuel (text.toList ++ rest) = (d, some rest)

variable {fuel : Nat} {rest : List Char} {text : String} {d : Document}

/-- No document is spelled by the empty text. -/
theorem Spells.length_pos (h : Spells text d) : 0 < text.toList.length := by
  obtain ⟨c, s, hc, -⟩ := h.starts
  simp [hc]

/-- A text that spells a document is read as the document. -/
theorem Spells.read_eq (h : Spells text d) : read text.toList = (d, some []) := by
  have hread : readDocument (3 * text.toList.length + 3) (text.toList ++ []) = (d, some []) :=
    h.reads (Nat.le_add_right _ _) endsNumber_nil
  rwa [List.append_nil] at hread

/-- Some fuel is always needed. -/
theorem Spells.of_succ (starts : ∃ c s, text.toList = c :: s ∧ isBlank c = false ∧ c ≠ ']')
    (reads : ∀ fuel rest, 3 * text.toList.length ≤ fuel + 1 → EndsNumber rest →
      readDocument (fuel + 1) (text.toList ++ rest) = (d, some rest)) : Spells text d where
  starts := starts
  reads := by
    intro fuel rest hfuel hrest
    obtain ⟨c, s, hc, -⟩ := starts
    have hlength : 0 < text.toList.length := by simp [hc]
    obtain ⟨fuel, rfl⟩ : ∃ less, fuel = less + 1 := ⟨fuel - 1, by omega⟩
    exact reads fuel rest hfuel hrest

/-! ## Steps of the reader -/

/-- A blank in front does not count. -/
theorem readDocument_blank (fuel : Nat) (s : List Char) :
    readDocument fuel (' ' :: s) = readDocument fuel s := by
  have hskip : skipBlanks (' ' :: s) = skipBlanks s := by simp [skipBlanks, isBlank]
  cases fuel with
  | zero => rfl
  | succ fuel => rw [readDocument, readDocument, hskip]

/-- A quote begins a string. -/
theorem readDocument_quote (fuel : Nat) (s : List Char) :
    readDocument (fuel + 1) ('\x22' :: s) =
      match readString s with
      | .ok (text, rest) => (.text text, some rest)
      | .error fault => stopped fault := rfl

/-- A bracket begins an array. -/
theorem readDocument_bracket (fuel : Nat) (s : List Char) :
    readDocument (fuel + 1) ('[' :: s) =
      (.array (readItems fuel true s).1 (readItems fuel true s).2.1,
        (readItems fuel true s).2.2) := rfl

/-- A brace begins an object. -/
theorem readDocument_brace (fuel : Nat) (s : List Char) :
    readDocument (fuel + 1) ('\x7b' :: s) =
      (.object (readEntries fuel true s).1 (readEntries fuel true s).2.1,
        (readEntries fuel true s).2.2) := rfl

/-- A minus sign begins a number. -/
theorem readDocument_minus (fuel : Nat) (s : List Char) :
    readDocument (fuel + 1) ('-' :: s) = readNumber true s := rfl

/-- Digits are not blank. -/
theorem not_isBlank_of_isDigit {c : Char} (h : c.isDigit = true) : isBlank c = false := by
  have hne (d : Char) (hd : d.isDigit = false) : (c == d) = false := by
    rw [beq_eq_false_iff_ne]
    rintro rfl
    rw [hd] at h
    contradiction
  rw [isBlank, hne ' ' rfl, hne '\n' rfl, hne '\r' rfl, hne '\t' rfl]
  rfl

/-- A digit begins a number. -/
theorem readDocument_digit {c : Char} (h : c.isDigit = true) (fuel : Nat) (s : List Char) :
    readDocument (fuel + 1) (c :: s) = readNumber false (c :: s) := by
  rw [readDocument, skipBlanks_of_not_blank (not_isBlank_of_isDigit h)]
  split
  case h_9 heq =>
    cases heq
    exact if_pos h
  all_goals
    next heq =>
      cases heq
      try contradiction

/-! ## Single documents -/

/-- The word for nothing spells it. -/
theorem spells_null : Spells "null" .null :=
  .of_succ ⟨'n', ['u', 'l', 'l'], rfl, rfl, by decide⟩ fun _ _ _ _ => rfl

/-- The words for truth values spell them. -/
theorem spells_bool (b : Bool) : Spells (if b then "true" else "false") (.bool b) := by
  cases b
  · exact .of_succ ⟨'f', ['a', 'l', 's', 'e'], rfl, rfl, by decide⟩ fun _ _ _ _ => rfl
  · exact .of_succ ⟨'t', ['r', 'u', 'e'], rfl, rfl, by decide⟩ fun _ _ _ _ => rfl

/-- A string spells its text. -/
theorem spells_string (s : String) : Spells (string s) (.text s) := by
  refine .of_succ ⟨'\x22', _, toList_string s, rfl, by decide⟩ fun fuel rest _ _ => ?_
  rw [toList_string, List.cons_append, List.append_assoc, readDocument_quote, List.singleton_append,
    readString_escaped]

/-- The decimal text of an integer spells it, or the long numeral that it is. -/
theorem spells_integer (n : Int) : Spells (integerText n) (integerDocument n) := by
  obtain ⟨c, s, hdigits⟩ : ∃ c s, naturalDigits n.natAbs = c :: s :=
    List.exists_cons_of_length_pos (Text.decimalLength_pos n.natAbs)
  have hc : c.isDigit = true := isDigit_of_mem_naturalDigits (hdigits ▸ List.mem_cons_self)
  have hdigit : isBlank c = false ∧ c ≠ ']' := by
    refine ⟨not_isBlank_of_isDigit hc, ?_⟩
    rintro rfl
    contradiction
  by_cases hn : n < 0
  · have htext : (integerText n).toList = '-' :: naturalDigits n.natAbs := by
      simp [integerText, integerDigits, hn]
    refine .of_succ ⟨'-', _, htext, rfl, by decide⟩ fun fuel rest _ hrest => ?_
    have hread := readNumber_integer n hrest
    rw [decide_eq_true hn] at hread
    rw [htext, List.cons_append, readDocument_minus, hread]
  · have htext : (integerText n).toList = c :: s := by
      simp [integerText, integerDigits, hn, hdigits]
    refine .of_succ ⟨c, s, htext, hdigit⟩ fun fuel rest _ hrest => ?_
    have hread := readNumber_integer n hrest
    rw [decide_eq_false hn, hdigits] at hread
    rw [htext, List.cons_append, readDocument_digit hc, ← List.cons_append, hread]

/-! ## Arrays -/

section Arrays

variable {γ : Type} {textOf : γ → String} {documentOf : γ → Document}

/-- Texts joined by commas and blanks, character by character. -/
theorem toList_joined_cons (text : String) (texts : List String) :
    (joined ", " (text :: texts)).toList =
      text.toList ++ texts.flatMap fun later => ',' :: ' ' :: later.toList := by
  induction texts generalizing text with
  | nil => simp
  | cons next texts ih =>
    have hjoined : joined ", " (text :: next :: texts) =
        text ++ ", " ++ joined ", " (next :: texts) := rfl
    rw [hjoined, String.toList_append, String.toList_append, ih, List.flatMap_cons,
      List.append_assoc]
    rfl

theorem readItems_bracket (fuel : Nat) (first : Bool) (s : List Char) :
    readItems (fuel + 1) first (']' :: s) = ([], none, some s) := rfl

/-- In front of the first item. -/
theorem readItems_first {c : Char} (hblank : isBlank c = false) (hc : c ≠ ']') (fuel : Nat)
    (s : List Char) : readItems (fuel + 1) true (c :: s) = readItemsFrom fuel (c :: s) := by
  rw [readItems, skipBlanks_of_not_blank hblank]
  split
  · contradiction
  · next heq => exact absurd (List.cons.inj heq).1 hc
  · next heq =>
    cases heq
    rfl

/-- In front of a later item. -/
theorem readItems_later {c : Char} (hblank : isBlank c = false) (hc : c ≠ ']') (fuel : Nat)
    (s : List Char) :
    readItems (fuel + 1) false (',' :: ' ' :: c :: s) = readItemsFrom fuel (c :: s) := by
  have hskip : skipBlanks (' ' :: c :: s) = c :: s := skipBlanks_of_not_blank hblank s
  rw [readItems, skipBlanks_of_not_blank rfl]
  split
  · contradiction
  · next heq => exact absurd (List.cons.inj heq).1 (by decide)
  · next heq =>
    cases heq
    rw [if_neg Bool.false_ne_true, if_pos rfl, hskip]
    split
    · contradiction
    · next heq => exact absurd (List.cons.inj heq).1 hc
    · rfl

/-- A document that is spelled is read as an item, whatever follows it. -/
theorem readItemsFrom_spells (h : Spells text d) (hfuel : 3 * text.toList.length ≤ fuel)
    (hrest : EndsNumber rest) :
    readItemsFrom (fuel + 1) (text.toList ++ rest) =
      (d :: (readItems fuel false rest).1, (readItems fuel false rest).2) := by
  rw [readItemsFrom, h.reads hfuel hrest]

/-- The items behind an item. -/
def laterItems (textOf : γ → String) (items : List γ) : List Char :=
  items.flatMap fun item => ',' :: ' ' :: (textOf item).toList

/-- A comma or the closing bracket follows an item. -/
theorem endsNumber_laterItems (items : List γ) (rest : List Char) :
    EndsNumber (laterItems textOf items ++ ']' :: rest) := by
  cases items with
  | nil => exact endsNumber_cons (by decide) rest
  | cons item items => exact endsNumber_cons (by decide) _

/-- The items behind an item are read. -/
theorem readItems_laterItems {items : List γ}
    (h : ∀ item ∈ items, Spells (textOf item) (documentOf item))
    (hfuel : 3 * (laterItems textOf items).length < fuel) :
    readItems fuel false (laterItems textOf items ++ ']' :: rest) =
      (items.map documentOf, none, some rest) := by
  induction items generalizing fuel with
  | nil =>
    obtain ⟨fuel, rfl⟩ := Nat.exists_eq_add_of_lt hfuel
    exact readItems_bracket _ false rest
  | cons item items ih =>
    have hitem := h item List.mem_cons_self
    obtain ⟨c, s, hc, hblank, hne⟩ := hitem.starts
    have hcons : laterItems textOf (item :: items) =
        ',' :: ' ' :: ((textOf item).toList ++ laterItems textOf items) := rfl
    have hlength : (laterItems textOf (item :: items)).length =
        2 + (textOf item).toList.length + (laterItems textOf items).length := by
      rw [hcons, List.length_cons, List.length_cons, List.length_append]
      omega
    have hpos := hitem.length_pos
    obtain ⟨fuel, rfl⟩ : ∃ less, fuel = less + 2 := ⟨fuel - 2, by omega⟩
    have hlater : readItems (fuel + 2) false (laterItems textOf (item :: items) ++ ']' :: rest) =
        readItemsFrom (fuel + 1)
          ((textOf item).toList ++ (laterItems textOf items ++ ']' :: rest)) := by
      rw [hcons, hc]
      simp only [List.cons_append, List.append_assoc]
      exact readItems_later hblank hne (fuel + 1) _
    rw [hlater, readItemsFrom_spells hitem (by omega) (endsNumber_laterItems items rest),
      ih (fun item hmem => h item (List.mem_cons_of_mem _ hmem)) (by omega)]
    rfl

/-- Texts in brackets spell an array. -/
theorem spells_array {items : List γ}
    (h : ∀ item ∈ items, Spells (textOf item) (documentOf item)) :
    Spells ("[" ++ joined ", " (items.map textOf) ++ "]") (.array (items.map documentOf) none) := by
  cases items with
  | nil =>
    have htext : ("[" ++ joined ", " (([] : List γ).map textOf) ++ "]").toList = ['[', ']'] := by
      simp
    refine .of_succ ⟨'[', _, htext, rfl, by decide⟩ fun fuel rest hfuel _ => ?_
    rw [htext] at hfuel ⊢
    simp only [List.length_cons, List.length_nil] at hfuel
    obtain ⟨fuel, rfl⟩ : ∃ less, fuel = less + 1 := ⟨fuel - 1, by omega⟩
    rfl
  | cons item items =>
    have hitem := h item List.mem_cons_self
    obtain ⟨c, s, hc, hblank, hne⟩ := hitem.starts
    have htext : ("[" ++ joined ", " ((item :: items).map textOf) ++ "]").toList =
        '[' :: ((textOf item).toList ++ (laterItems textOf items ++ [']'])) := by
      rw [List.map_cons, String.toList_append, String.toList_append, toList_joined_cons,
        List.flatMap_map]
      simp [laterItems]
    refine .of_succ ⟨'[', _, htext, rfl, by decide⟩ fun fuel rest hfuel _ => ?_
    rw [htext] at hfuel ⊢
    simp only [List.length_cons, List.length_append, List.length_nil] at hfuel
    obtain ⟨fuel, rfl⟩ : ∃ less, fuel = less + 2 := ⟨fuel - 2, by omega⟩
    have hfirst : readItems (fuel + 2) true
        ((textOf item).toList ++ (laterItems textOf items ++ [']']) ++ rest) =
        readItemsFrom (fuel + 1)
          ((textOf item).toList ++ (laterItems textOf items ++ ']' :: rest)) := by
      rw [hc]
      simp only [List.cons_append, List.append_assoc, List.nil_append]
      exact readItems_first hblank hne (fuel + 1) _
    rw [List.cons_append, readDocument_bracket, hfirst,
      readItemsFrom_spells hitem (by omega) (endsNumber_laterItems items rest),
      readItems_laterItems (fun item hmem => h item (List.mem_cons_of_mem _ hmem)) (by omega)]
    rfl

end Arrays

/-! ## Objects -/

section Objects

variable {γ : Type} {keyOf textOf : γ → String} {documentOf : γ → Document}

theorem readEntries_brace (fuel : Nat) (first : Bool) (s : List Char) :
    readEntries (fuel + 1) first ('\x7d' :: s) = ([], none, some s) := rfl

theorem readEntries_first (fuel : Nat) (s : List Char) :
    readEntries (fuel + 1) true ('\x22' :: s) = readEntriesFrom fuel ('\x22' :: s) := rfl

theorem readEntries_later (fuel : Nat) (s : List Char) :
    readEntries (fuel + 1) false (',' :: ' ' :: '\x22' :: s) =
      readEntriesFrom fuel ('\x22' :: s) := rfl

/-- An entry behind its first quote. -/
def entryBody (key text : String) : List Char :=
  key.toList.flatMap escapeChar ++ '\x22' :: ':' :: ' ' :: text.toList

/-- An entry begins with the quote of its key. -/
theorem toList_entry (key text : String) :
    (string key ++ ": " ++ text).toList = '\x22' :: entryBody key text := by
  simp [entryBody, toList_string]

/-- A document that is spelled is read behind its key, whatever follows it. -/
theorem readEntriesFrom_spells (key : String) (h : Spells text d)
    (hfuel : 3 * text.toList.length ≤ fuel) (hrest : EndsNumber rest) :
    readEntriesFrom (fuel + 1) ('\x22' :: (entryBody key text ++ rest)) =
      ((key, d) :: (readEntries fuel false rest).1, (readEntries fuel false rest).2) := by
  have hbody : entryBody key text ++ rest =
      key.toList.flatMap escapeChar ++ '\x22' :: (':' :: ' ' :: (text.toList ++ rest)) := by
    simp [entryBody]
  have hcolon : skipBlanks (':' :: ' ' :: (text.toList ++ rest)) =
      ':' :: ' ' :: (text.toList ++ rest) := skipBlanks_of_not_blank rfl _
  rw [readEntriesFrom, hbody, readString_escaped]
  simp only [hcolon, readDocument_blank, h.reads hfuel hrest]

/-- The entries behind an entry. -/
def laterEntries (keyOf textOf : γ → String) (entries : List γ) : List Char :=
  entries.flatMap fun entry => ',' :: ' ' :: '\x22' :: entryBody (keyOf entry) (textOf entry)

/-- A comma or the closing brace follows an entry. -/
theorem endsNumber_laterEntries (entries : List γ) (rest : List Char) :
    EndsNumber (laterEntries keyOf textOf entries ++ '\x7d' :: rest) := by
  cases entries with
  | nil => exact endsNumber_cons (by decide) rest
  | cons entry entries => exact endsNumber_cons (by decide) _

/-- An entry is longer than the text of its value. -/
theorem length_entryBody (key text : String) :
    text.toList.length + 3 ≤ (entryBody key text).length := by
  simp only [entryBody, List.length_append, List.length_cons]
  omega

/-- The entries behind an entry are read. -/
theorem readEntries_laterEntries {entries : List γ}
    (h : ∀ entry ∈ entries, Spells (textOf entry) (documentOf entry))
    (hfuel : 3 * (laterEntries keyOf textOf entries).length < fuel) :
    readEntries fuel false (laterEntries keyOf textOf entries ++ '\x7d' :: rest) =
      (entries.map fun entry => (keyOf entry, documentOf entry), none, some rest) := by
  induction entries generalizing fuel with
  | nil =>
    obtain ⟨fuel, rfl⟩ := Nat.exists_eq_add_of_lt hfuel
    exact readEntries_brace _ false rest
  | cons entry entries ih =>
    have hentry := h entry List.mem_cons_self
    have hcons : laterEntries keyOf textOf (entry :: entries) = ',' :: ' ' :: '\x22' ::
        (entryBody (keyOf entry) (textOf entry) ++ laterEntries keyOf textOf entries) := rfl
    have hbody := length_entryBody (keyOf entry) (textOf entry)
    rw [hcons] at hfuel ⊢
    simp only [List.length_cons, List.length_append] at hfuel
    obtain ⟨fuel, rfl⟩ : ∃ less, fuel = less + 2 := ⟨fuel - 2, by omega⟩
    simp only [List.cons_append, List.append_assoc]
    rw [readEntries_later, readEntriesFrom_spells (keyOf entry) hentry (by omega)
      (endsNumber_laterEntries entries rest),
      ih (fun entry hmem => h entry (List.mem_cons_of_mem _ hmem)) (by omega)]
    rfl

/-- Texts behind keys in braces spell an object. -/
theorem spells_object (keyOf : γ → String) {entries : List γ}
    (h : ∀ entry ∈ entries, Spells (textOf entry) (documentOf entry)) :
    Spells ("\x7b" ++ joined ", " (entries.map fun entry =>
        string (keyOf entry) ++ ": " ++ textOf entry) ++ "\x7d")
      (.object (entries.map fun entry => (keyOf entry, documentOf entry)) none) := by
  cases entries with
  | nil =>
    have htext : ("\x7b" ++ joined ", " (([] : List γ).map fun entry =>
        string (keyOf entry) ++ ": " ++ textOf entry) ++ "\x7d").toList = ['\x7b', '\x7d'] := by
      simp
    refine .of_succ ⟨'\x7b', _, htext, rfl, by decide⟩ fun fuel rest hfuel _ => ?_
    rw [htext] at hfuel ⊢
    simp only [List.length_cons, List.length_nil] at hfuel
    obtain ⟨fuel, rfl⟩ : ∃ less, fuel = less + 1 := ⟨fuel - 1, by omega⟩
    rfl
  | cons entry entries =>
    have hentry := h entry List.mem_cons_self
    have hbody := length_entryBody (keyOf entry) (textOf entry)
    have htext : ("\x7b" ++ joined ", " ((entry :: entries).map fun entry =>
        string (keyOf entry) ++ ": " ++ textOf entry) ++ "\x7d").toList =
        '\x7b' :: '\x22' :: (entryBody (keyOf entry) (textOf entry) ++
          (laterEntries keyOf textOf entries ++ ['\x7d'])) := by
      rw [List.map_cons, String.toList_append, String.toList_append, toList_joined_cons,
        List.flatMap_map]
      simp only [toList_entry]
      simp [laterEntries]
    refine .of_succ ⟨'\x7b', _, htext, rfl, by decide⟩ fun fuel rest hfuel _ => ?_
    rw [htext] at hfuel ⊢
    simp only [List.length_cons, List.length_append, List.length_nil] at hfuel
    obtain ⟨fuel, rfl⟩ : ∃ less, fuel = less + 2 := ⟨fuel - 2, by omega⟩
    simp only [List.cons_append, List.append_assoc, List.nil_append]
    rw [readDocument_brace, readEntries_first,
      readEntriesFrom_spells (keyOf entry) hentry (by omega) (endsNumber_laterEntries entries rest),
      readEntries_laterEntries (fun entry hmem => h entry (List.mem_cons_of_mem _ hmem)) (by omega)]
    rfl

end Objects

end PackageBuild.Json
