/-!
# Code points

A text of this library holds Unicode scalar values. Elsewhere a text may be any list of code points,
surrogates included, and the writer of JSON strings takes it as such a list.

Main results:

- `CodePoint.val_ofChar`: the code point of a character is its number.
-/

namespace PackageBuild.Text

/-- A code point of Unicode. Surrogates are code points too, although they are no characters. -/
abbrev CodePoint := Fin 0x110000

/-- The code point of a character. -/
def CodePoint.ofChar (c : Char) : CodePoint :=
  ⟨c.toNat, by
    have hvalid : c.toNat < 0xD800 ∨ 0xDFFF < c.toNat ∧ c.toNat < 0x110000 := c.valid
    omega⟩

/-- The code points of a text. -/
def codePoints (s : String) : List CodePoint := s.toList.map .ofChar

@[simp] theorem CodePoint.val_ofChar (c : Char) : (CodePoint.ofChar c).val = c.toNat := rfl

theorem toNat_ofNat {n : Nat} (h : n.isValidChar) : (Char.ofNat n).toNat = n := by
  rw [Char.ofNat, dif_pos h]
  rfl

end PackageBuild.Text
