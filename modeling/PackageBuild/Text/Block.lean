/-!
# Blocks of code points

A property of characters is given as a list of blocks, each a run of consecutive code points.
The property tables of this library (`Text.Blank`, `Text.Printable`, `Text.Digit`) are such lists.
-/

namespace PackageBuild.Text

/-- A run of consecutive code points, given by its first and its last member. -/
abbrev Block := Nat × Nat

/-- Whether a character lies in one of the listed blocks. -/
def within (blocks : List Block) (c : Char) : Bool :=
  blocks.any fun block => block.1 ≤ c.toNat && c.toNat ≤ block.2

end PackageBuild.Text
