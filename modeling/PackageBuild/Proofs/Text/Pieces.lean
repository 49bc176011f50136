import PackageBuild.Text.Split

/-!
# Joined texts taken apart

Texts that were joined with single blanks are found again by cutting at the blanks, exactly when
none of them holds a blank itself.

Main results:

- Theorem `splitOn_joinWith`: what was joined with a separator is found again by cutting at it.
- Theorem `pieces_joined_iff`: when texts joined with blanks are found again.
- Theorem `joined_eq_empty_iff`: when the joined text is empty.
-/

namespace PackageBuild.Text

variable {separator c : Char}

/-- The pieces of a text between single blanks. -/
def pieces (text : String) : List String := (splitOn ' ' text.toList).map String.ofList

/-! ## Lists of characters -/

/-- Splitting at a separator is that of lists. -/
theorem splitOn_eq (separator : Char) (s : List Char) :
    splitOn separator s = s.splitOn separator := by
  induction s with
  | nil => rfl
  | cons c s ih =>
    obtain ⟨piece, pieces, hs⟩ := List.exists_cons_of_ne_nil (splitOn_ne_nil separator s)
    rw [splitOn, List.splitOn_cons_eq_if_modifyHead, ← ih, hs]
    by_cases hc : c = separator <;> simp [hc]

/-- Joining with a separator is that of lists. -/
theorem joinWith_eq (separator : Char) (pieces : List (List Char)) :
    joinWith separator pieces = [separator].intercalate pieces := by
  induction pieces with
  | nil => rfl
  | cons piece pieces ih =>
    cases pieces with
    | nil => simp [joinWith]
    | cons next pieces =>
      rw [joinWith, ih, List.intercalate_cons_cons, List.append_assoc, List.singleton_append]
      exact List.cons_ne_nil next pieces

/-- Pieces without the separator are found again. -/
theorem splitOn_joinWith {pieces : List (List Char)} (hne : pieces ≠ [])
    (h : ∀ piece ∈ pieces, separator ∉ piece) :
    splitOn separator (joinWith separator pieces) = pieces := by
  rw [splitOn_eq, joinWith_eq, List.splitOn_intercalate separator h hne]

/-- The characters of a piece are in the joined text. -/
theorem mem_joinWith_of_mem {piece : List Char} {pieces : List (List Char)}
    (hpiece : piece ∈ pieces) (h : c ∈ piece) : c ∈ joinWith separator pieces := by
  induction pieces with
  | nil => cases hpiece
  | cons first pieces ih =>
    cases pieces with
    | nil => exact List.mem_singleton.1 hpiece ▸ h
    | cons next pieces =>
      refine List.mem_append.2 ?_
      rcases List.mem_cons.1 hpiece with rfl | hpiece
      · exact .inl h
      · exact .inr (List.mem_cons_of_mem _ (ih hpiece))

/-- The characters of a piece are in the text that was split. -/
theorem mem_of_mem_splitOn {s piece : List Char} (hpiece : piece ∈ splitOn separator s)
    (h : c ∈ piece) : c ∈ s := by
  rw [← joinWith_splitOn separator s]
  exact mem_joinWith_of_mem hpiece h

/-- A character of a joined text is the separator or in a piece. -/
theorem mem_joinWith {pieces : List (List Char)} (h : c ∈ joinWith separator pieces) :
    c = separator ∨ ∃ piece ∈ pieces, c ∈ piece := by
  induction pieces with
  | nil => cases h
  | cons piece pieces ih =>
    cases pieces with
    | nil => exact .inr ⟨piece, List.mem_cons_self, h⟩
    | cons next pieces =>
      rcases List.mem_append.1 h with h | h
      · exact .inr ⟨piece, List.mem_cons_self, h⟩
      · rcases List.mem_cons.1 h with h | h
        · exact .inl h
        · rcases ih h with h | ⟨other, hother, h⟩
          · exact .inl h
          · exact .inr ⟨other, List.mem_cons_of_mem _ hother, h⟩

/-! ## Texts -/

/-- Joining texts with a blank joins their characters with it. -/
theorem toList_joined_blank (texts : List String) :
    (joined " " texts).toList = joinWith ' ' (texts.map String.toList) := by
  induction texts with
  | nil => rfl
  | cons text texts ih =>
    cases texts with
    | nil => rfl
    | cons next texts =>
      have hjoined : joined " " (text :: next :: texts) =
          text ++ " " ++ joined " " (next :: texts) := rfl
      rw [hjoined, String.toList_append, String.toList_append, ih, List.append_assoc]
      rfl

/-- Texts joined with blanks are found again when none of them holds a blank, and only then. -/
theorem pieces_joined_iff {texts : List String} (hne : texts ≠ []) :
    pieces (joined " " texts) = texts ↔ ∀ text ∈ texts, ' ' ∉ text.toList := by
  rw [pieces, toList_joined_blank]
  constructor
  · intro h text htext
    rw [← h] at htext
    obtain ⟨piece, hpiece, rfl⟩ := List.mem_map.1 htext
    rw [String.toList_ofList]
    exact not_mem_of_mem_splitOn hpiece
  · intro h
    have hpieces : ∀ piece ∈ texts.map String.toList, ' ' ∉ piece := List.forall_mem_map.2 h
    rw [splitOn_joinWith (mt List.map_eq_nil_iff.1 hne) hpieces, List.map_map]
    simp [Function.comp_def]

/-- Texts that are not empty are joined to a text that is not, unless there are none. -/
theorem joined_eq_empty_iff {between : String} {texts : List String}
    (h : ∀ text ∈ texts, text ≠ "") : joined between texts = "" ↔ texts = [] := by
  cases texts with
  | nil => simp
  | cons text texts =>
    have hfirst : text ≠ "" := h text List.mem_cons_self
    cases texts with
    | nil => simp [hfirst]
    | cons next texts => simp [joined, String.append_eq_empty_iff, hfirst]

end PackageBuild.Text
