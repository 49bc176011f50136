import PackageBuild.Blocking

/-!
# The summary for programs

The summary as a table: a row for every build unit with its file name, its outcome and what holds it
back, grouped by outcome in report order.

Main results:

- `columns_length`: a row has three columns.
-/

namespace PackageBuild.Summary

/-- A row of the table, in which what holds the unit back is something of type `β`. -/
structure RowOf (β : Type) where
  package : String
  outcome : Outcome
  blocker : β
  deriving DecidableEq, Repr, Inhabited

/-- A row of the table, in which what holds the unit back is a text. -/
abbrev Row := RowOf String

/-- The names of the columns. -/
def columnNames : List String := ["Package", "State", "Blocker"]

/-- The columns of a row. -/
def RowOf.columns (row : Row) : List String := [row.package, row.outcome.text, row.blocker]

@[simp] theorem columns_length (row : Row) : row.columns.length = columnNames.length := rfl

variable {β : Type}

/-- The row of a unit; only a blocked one has what holds it back, and it may be nothing. -/
def rowOf (nothing : β) (blockers : OrderedMap Value.Key β) (outcome : Outcome) (node : Node) :
    RowOf β :=
  { package := node.fileName
    outcome := outcome
    blocker :=
      if outcome.isBlocked then (blockers.find? node.buildUnit).getD nothing else nothing }

/-- The rows of the units with an outcome. -/
def outcomeRows (nothing : β) (c : Classification) (blockers : OrderedMap Value.Key β)
    (outcome : Outcome) : Except Classification.Trouble (List (RowOf β)) :=
  (c.members outcome).map fun nodes => nodes.map (rowOf nothing blockers outcome)

/-- The rows of all units, given what stands for nothing. -/
def rowsWith (nothing : β) (c : Classification) (blockers : OrderedMap Value.Key β) :
    Except Classification.Trouble (List (RowOf β)) :=
  (Outcome.all.mapM (outcomeRows nothing c blockers)).map List.flatten

/-- The rows of all units. -/
def rows (c : Classification) (blockers : Blocking.Blockers) :
    Except Classification.Trouble (List Row) :=
  rowsWith "" c blockers

end PackageBuild.Summary
