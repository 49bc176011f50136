/-!
# Splitting and joining

A text cut at every occurrence of a separator, and pieces put together with a separator between
them.

Main results:

- `splitOn_ne_nil`: there is always at least one piece.
- `joinWith_splitOn`: joining the pieces gives the text back.
- `not_mem_of_mem_splitOn`: no piece holds the separator.
-/

namespace PackageBuild.Text

/-- The pieces of a list of characters between the occurrences of a separator. -/
def splitOn (separator : Char) : List Char → List (List Char)
  | [] => [[]]
  | c :: rest =>
    if c = separator then [] :: splitOn separator rest
    else match splitOn separator rest with
      | [] => [[c]]
      | piece :: pieces => (c :: piece) :: pieces

/-- Pieces joined with a separator between them. -/
def joinWith (separator : Char) : List (List Char) → List Char
  | [] => []
  | [piece] => piece
  | piece :: pieces => piece ++ separator :: joinWith separator pieces

theorem splitOn_ne_nil (separator : Char) (s : List Char) : splitOn separator s ≠ [] := by
  cases s with
  | nil => simp [splitOn]
  | cons c s =>
    unfold splitOn
    split
    · simp
    · split <;> simp

/-- Joining the pieces gives the text back. -/
theorem joinWith_splitOn (separator : Char) (s : List Char) :
    joinWith separator (splitOn separator s) = s := by
  induction s with
  | nil => rfl
  | cons c s ih =>
    obtain ⟨piece, pieces, h⟩ := List.exists_cons_of_ne_nil (splitOn_ne_nil separator s)
    rw [h] at ih
    by_cases hc : c = separator
    · simp [splitOn, hc, h, joinWith, ih]
    · cases pieces with
      | nil =>
        simp only [joinWith] at ih
        simp [splitOn, hc, h, joinWith, ih]
      | cons next pieces =>
        simp only [joinWith] at ih
        simp [splitOn, hc, h, joinWith, ih]

/-- No piece holds the separator. -/
theorem not_mem_of_mem_splitOn {separator : Char} {s piece : List Char}
    (h : piece ∈ splitOn separator s) : separator ∉ piece := by
  induction s generalizing piece with
  | nil => simp only [splitOn, List.mem_singleton] at h; simp [h]
  | cons c s ih =>
    obtain ⟨first, pieces, hs⟩ := List.exists_cons_of_ne_nil (splitOn_ne_nil separator s)
    by_cases hc : c = separator
    · simp only [splitOn, hc, if_pos, List.mem_cons] at h
      rcases h with rfl | h
      · simp
      · exact ih h
    · simp only [splitOn, hc, if_neg, hs, List.mem_cons, not_false_eq_true] at h
      rcases h with rfl | h
      · have := @ih first (by simp [hs])
        simp [this, Ne.symm hc]
      · exact ih (by simp [hs, h])

/-- Texts joined with a separator text between them. -/
def joined (separator : String) : List String → String
  | [] => ""
  | [piece] => piece
  | piece :: pieces => piece ++ separator ++ joined separator pieces

@[simp] theorem joined_nil (separator : String) : joined separator [] = "" := rfl

@[simp] theorem joined_singleton (separator piece : String) :
    joined separator [piece] = piece := rfl

end PackageBuild.Text
