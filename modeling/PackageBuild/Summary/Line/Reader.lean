import PackageBuild.Summary.Line

/-!
# Reading summaries

A reader of a summary looks for a title and takes the items below it, up to the first line that is
no item; or it looks for a label and takes what stands behind it in its line.

Main results:

- `textBehind?_append`: a text is read behind the front that it was put behind.
- `itemText?_item`: what was made an item reads as that item.
-/

namespace PackageBuild.Summary

/-- What stands in a text behind a front that it begins with. -/
def textBehind? (front text : String) : Option String :=
  (front.toList.isPrefixOf? text.toList).map String.ofList

/-- The text of a line if it is an item. -/
def itemText? (line : Line) : Option String := textBehind? "--> " line.text

/-- The texts of the items that lines begin with. -/
def leadingItems : List Line → List String
  | [] => []
  | line :: rest =>
    match itemText? line with
    | some text => text :: leadingItems rest
    | none => []

/-- The texts of the items below the first line with a title. -/
def itemsUnder (title : String) : List Line → List String
  | [] => []
  | line :: rest => if line.text = title then leadingItems rest else itemsUnder title rest

/-- What follows a label on lines that begin with it. -/
def textsBehind (label : String) (lines : List Line) : List String :=
  lines.filterMap fun line => textBehind? label line.text

theorem isPrefixOf?_append (front rest : List Char) :
    front.isPrefixOf? (front ++ rest) = some rest := by
  induction front with
  | nil => rfl
  | cons c front ih =>
    calc
      (c :: front).isPrefixOf? (c :: (front ++ rest))
        = if c == c then front.isPrefixOf? (front ++ rest) else none := rfl
      _ = some rest := by rw [if_pos (beq_self_eq_true c), ih]

/-- A text is read behind the front that it was put behind. -/
@[simp] theorem textBehind?_append (front text : String) :
    textBehind? front (front ++ text) = some text := by
  rw [textBehind?, String.toList_append, isPrefixOf?_append, Option.map_some, String.ofList_toList]

/-- What was made an item reads as that item. -/
@[simp] theorem itemText?_item (level : Int) (text : String) :
    itemText? (item level text) = some text :=
  textBehind?_append "--> " text

end PackageBuild.Summary
