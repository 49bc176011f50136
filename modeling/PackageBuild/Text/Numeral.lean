import PackageBuild.Text.Digit

/-!
# Numerals

The written form of an integer: an optional sign, then decimal digits of any script, with single
low lines between digits where the writer wishes. A numeral has at most `digitLimit` digits.
-/

namespace PackageBuild.Text.Numeral

/-- The greatest number of digits of a numeral. -/
def digitLimit : Nat := 4300

/-- The digits of a run in which a low line may stand between two digits. -/
def digits? : List Char → Option (List Nat)
  | [] => none
  | [c] => (digitValue? c).map fun d => [d]
  | c :: '_' :: rest => (digitValue? c).bind fun d => (digits? rest).map (d :: ·)
  | c :: next :: rest => (digitValue? c).bind fun d => (digits? (next :: rest)).map (d :: ·)

/-- The number that a list of digits writes. -/
def ofDigits (digits : List Nat) : Nat := digits.foldl (fun n d => 10 * n + d) 0

/-- The number of an unsigned numeral. -/
def natural? (s : List Char) : Option Nat :=
  (digits? s).bind fun ds => if ds.length ≤ digitLimit then some (ofDigits ds) else none

/-- The number of a numeral with an optional sign. -/
def integer? : List Char → Option Int
  | '+' :: rest => (natural? rest).map Int.ofNat
  | '-' :: rest => (natural? rest).map fun n => -(n : Int)
  | s => (natural? s).map Int.ofNat

end PackageBuild.Text.Numeral
