import PackageBuild.Text.Split

/-!
# Paths

A path is an anchor and a list of components. Empty components and single dots do not count; two
dots do. Exactly two leading slashes are an anchor of their own.

Main results:

- `name_ne_dot`: the name of a path read from text is never a single dot.
- `not_slash_mem_name`: it holds no slash.
-/

namespace PackageBuild

/-- Where a path begins. -/
inductive Anchor where
  | relative
  | root
  | doubleRoot
  deriving DecidableEq, Repr

namespace Anchor

/-- The text in front of the components. -/
def text : Anchor → List Char
  | relative => []
  | root => ['/']
  | doubleRoot => ['/', '/']

/-- The anchor of a text. -/
def ofText : List Char → Anchor
  | '/' :: '/' :: '/' :: _ => root
  | '/' :: '/' :: _ => doubleRoot
  | '/' :: _ => root
  | _ => relative

end Anchor

/-- An anchor with the components behind it. -/
structure Path where
  anchor : Anchor
  parts : List (List Char)
  deriving DecidableEq, Repr

namespace Path

/-- Whether a piece between slashes is a component. -/
def isPart (piece : List Char) : Bool := piece ≠ [] && piece ≠ ['.']

/-- The components of a text. -/
def partsOf (s : List Char) : List (List Char) := (Text.splitOn '/' s).filter isPart

/-- The path that a text writes. -/
def ofChars (s : List Char) : Path := ⟨Anchor.ofText s, partsOf s⟩

/-- The path that a text writes. -/
def ofText (text : String) : Path := ofChars text.toList

/-- The text of a path; a path without anchor and components is a single dot. -/
def chars (p : Path) : List Char :=
  match p.anchor.text ++ Text.joinWith '/' p.parts with
  | [] => ['.']
  | s => s

/-- The text of a path. -/
def text (p : Path) : String := String.ofList p.chars

/-- The last component, or nothing. -/
def name (p : Path) : List Char := p.parts.getLast?.getD []

/-- The last component of the path that a text writes. -/
def baseName (text : String) : String := String.ofList (ofText text).name

/-- The components with the anchor in front, by which paths are ordered. -/
def sortKey (p : Path) : List (List Char) :=
  match p.anchor with
  | .relative => p.parts
  | anchor => anchor.text :: p.parts

theorem mem_partsOf {s part : List Char} (h : part ∈ partsOf s) :
    '/' ∉ part ∧ part ≠ [] ∧ part ≠ ['.'] := by
  simp only [partsOf, List.mem_filter, isPart, Bool.and_eq_true, decide_eq_true_eq] at h
  exact ⟨Text.not_mem_of_mem_splitOn h.1, h.2.1, h.2.2⟩

theorem name_ofChars (s : List Char) : (ofChars s).name = [] ∨ (ofChars s).name ∈ partsOf s := by
  simp only [name, ofChars]
  cases h : (partsOf s).getLast? with
  | none => simp
  | some part => exact Or.inr (by simpa using List.mem_of_getLast? h)

/-- The name of a path read from text holds no slash. -/
theorem not_slash_mem_name (s : List Char) : '/' ∉ (ofChars s).name := by
  rcases name_ofChars s with h | h
  · simp [h]
  · exact (mem_partsOf h).1

/-- The name of a path read from text is never a single dot. -/
theorem name_ne_dot (s : List Char) : (ofChars s).name ≠ ['.'] := by
  rcases name_ofChars s with h | h
  · simp [h]
  · exact (mem_partsOf h).2.2

end Path

end PackageBuild
