import PackageBuild.Proofs.Attempt
import PackageBuild.Template.Fill

/-!
# Templates that name fields

Most templates consist of text and of directives that ask for the plain text of a field.  Such a
template is filled in piece by piece, and every field can be asked for as often as wanted.

Main results:

- Theorem `fillPieces_literals`: text stands in front of the rest as it is.
- Theorem `fillPieces_plain`: so does the plain text of a field.
-/

namespace PackageBuild.Template

variable {whole v : Value} {name text : String}

/-- A directive that asks for the plain text of a field. -/
def plainDirective (name : String) (index : Nat) : Directive :=
  { name? := some name, conversion? := some 's', index }

/-- A text is filled in as it is where neither a width nor a precision is asked for. -/
theorem fillText_plain (style : Style) (conversion : Char) (index : Nat) (s : List Char) :
    Layout.fillText ⟨style, 0, none, conversion, index⟩ s = s := by
  have hleft : Text.padLeft ' ' 0 s = s := by simp [Text.padLeft]
  have hright : Text.padRight ' ' 0 s = s := by simp [Text.padRight]
  simp only [Layout.fillText, Layout.pad, hleft, hright, ite_self]

/-- A plain directive is filled in with the plain text of its value. -/
theorem fillWithin_plain (htext : v.plainText = .ok text) (style : Style) (index : Nat) :
    fillWithin ⟨style, 0, none, 's', index⟩ v = .ok text.toList := by
  have hroom : 0 < memoryLimit := by decide
  rw [fillWithin, if_pos hroom, fillValue, htext]
  exact congrArg Except.ok (fillText_plain style 's' index text.toList)

/-- A directive with the name of an item is filled in with its plain text. -/
theorem fillDirective_plain (hitem : Supply.item name whole = .ok v)
    (htext : v.plainText = .ok text) (left : List Value) (index : Nat) :
    fillDirective ⟨some whole, left⟩ (plainDirective name index) =
      .ok (text.toList, ⟨some whole, []⟩) := by
  have hselect : Supply.selectAny ⟨some whole, left⟩ (some name) = .ok ⟨some whole, [v]⟩ := by
    simp only [Supply.selectAny, Supply.select, hitem]
    rfl
  have hwidth : widthOf ⟨some whole, [v]⟩ (.fixed 0) = .ok ((0, false), ⟨some whole, [v]⟩) := by
    simp [widthOf, widthBound]
  rw [fillDirective, plainDirective, hselect]
  simp only [bind, Except.bind, hwidth, precisionOf, Supply.take, fillWithin_plain htext]
  rfl

/-- A template ends where no piece is left, whatever was not asked for. -/
theorem fillPieces_nil (left : List Value) : fillPieces ⟨some whole, left⟩ [] = .ok [] := by
  simp [fillPieces]

/-- Text stands in front of the rest as it is. -/
theorem fillPieces_literals (s : Supply) (chars : List Char) (rest : List Piece) :
    fillPieces s (chars.map .literal ++ rest) = (fillPieces s rest).map (chars ++ ·) := by
  induction chars with
  | nil =>
    rw [List.map_nil, List.nil_append]
    cases fillPieces s rest <;> rfl
  | cons c chars ih =>
    rw [List.map_cons, List.cons_append, fillPieces, ih]
    cases fillPieces s rest <;> rfl

/-- The plain text of a field stands in front of the rest. -/
theorem fillPieces_plain (hitem : Supply.item name whole = .ok v) (htext : v.plainText = .ok text)
    (left : List Value) (index : Nat) (rest : List Piece) :
    fillPieces ⟨some whole, left⟩ (.directive (plainDirective name index) :: rest) =
      (fillPieces ⟨some whole, []⟩ rest).map (text.toList ++ ·) := by
  rw [fillPieces, fillDirective_plain hitem htext]
  rfl

end PackageBuild.Template
