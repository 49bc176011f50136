import PackageBuild.Text.Block

/-!
# Blank characters

The white space of Unicode together with the four information separators `U+001C` to `U+001F`.
The zero width space `U+200B` is not blank.
-/

namespace PackageBuild.Text

/-- The blocks of blank characters. -/
def blankBlocks : List Block :=
  [(0x09, 0x0D), (0x1C, 0x20), (0x85, 0x85), (0xA0, 0xA0), (0x1680, 0x1680), (0x2000, 0x200A),
   (0x2028, 0x2029), (0x202F, 0x202F), (0x205F, 0x205F), (0x3000, 0x3000)]

/-- Whether a character is blank. -/
def isBlank (c : Char) : Bool := within blankBlocks c

/-- A list of characters without the blank ones at its end. -/
def dropTrailingBlanks (s : List Char) : List Char :=
  (s.reverse.dropWhile isBlank).reverse

/-- A list of characters without the blank ones at its two ends. -/
def stripBlanks (s : List Char) : List Char :=
  dropTrailingBlanks (s.dropWhile isBlank)

/-- A text without the blank characters at its two ends. -/
def strip (s : String) : String := String.ofList (stripBlanks s.toList)

theorem dropWhile_dropWhile (p : Char → Bool) (s : List Char) :
    (s.dropWhile p).dropWhile p = s.dropWhile p := by
  induction s with
  | nil => rfl
  | cons c s ih =>
    by_cases h : p c = true
    · simp [h, ih]
    · simp [h]

/-- Dropping at the end keeps a list whose first character is not blank from losing more in front.
-/
theorem dropWhile_dropTrailingBlanks (s : List Char) (h : s.dropWhile isBlank = s) :
    (dropTrailingBlanks s).dropWhile isBlank = dropTrailingBlanks s := by
  cases s with
  | nil => rfl
  | cons c s =>
    have hc : isBlank c = false := by
      cases hb : isBlank c with
      | false => rfl
      | true =>
        have hlen := congrArg List.length h
        have := (s.dropWhile_sublist (p := isBlank)).length_le
        simp [hb] at hlen
        omega
    have key : ∃ t, dropTrailingBlanks (c :: s) = c :: t := by
      have hsplit : ∀ (r : List Char), ∃ t, ((r ++ [c]).dropWhile isBlank) = t ++ [c] := by
        intro r
        induction r with
        | nil => exact ⟨[], by simp [hc]⟩
        | cons d r ih =>
          by_cases hd : isBlank d = true
          · simpa [hd] using ih
          · exact ⟨d :: r, by simp [hd]⟩
      obtain ⟨t, ht⟩ := hsplit s.reverse
      exact ⟨t.reverse, by simp [dropTrailingBlanks, ht]⟩
    obtain ⟨t, ht⟩ := key
    simp [ht, hc]

theorem stripBlanks_stripBlanks (s : List Char) : stripBlanks (stripBlanks s) = stripBlanks s := by
  unfold stripBlanks
  rw [dropWhile_dropTrailingBlanks _ (dropWhile_dropWhile isBlank s)]
  simp [dropTrailingBlanks, dropWhile_dropWhile]

end PackageBuild.Text
