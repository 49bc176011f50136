import PackageBuild.Sorting.Search

/-!
# Runs in a list

The front of a list is a run: no value below the one before it, or each value below the one before
it, in which case the run is turned round. A short run is made longer by putting the values that
follow into their places.
-/

namespace PackageBuild.Sorting

variable {α ε : Type}

/-- The front part in which each value is below the one before it, and the rest; the front part
comes in reverse. -/
def fallingRun (less : α → α → Except ε Bool) (last : α) (reversed : List α) :
    List α → Except ε (List α × List α)
  | [] => .ok (last :: reversed, [])
  | x :: rest => do
    if ← less x last then fallingRun less x (last :: reversed) rest
    else .ok (last :: reversed, x :: rest)

/-- The front part in which no value is below the one before it, in reverse, and the rest. -/
def risingRun (less : α → α → Except ε Bool) (last : α) (reversed : List α) :
    List α → Except ε (List α × List α)
  | [] => .ok (last :: reversed, [])
  | x :: rest => do
    if ← less x last then .ok (last :: reversed, x :: rest)
    else risingRun less x (last :: reversed) rest

/-- The run in front of a list, in ascending order, and the rest. -/
def frontRun (less : α → α → Except ε Bool) : List α → Except ε (List α × List α)
  | [] => .ok ([], [])
  | [x] => .ok ([x], [])
  | x :: y :: rest => do
    if ← less y x then fallingRun less y [x] rest
    else
      let (reversed, rest) ← risingRun less y [x] rest
      return (reversed.reverse, rest)

/-- The number of values of a run that a new value goes behind, found by halving. -/
def place (less : α → α → Except ε Bool) (run : List α) (x : α) : Except ε Nat :=
  narrow (isNotAbove less run x) run.length 0 run.length

/-- The values of the second list put one by one into their places in a run. -/
def insertAll (less : α → α → Except ε Bool) (run : List α) : List α → Except ε (List α)
  | [] => .ok run
  | x :: rest => do
    let n ← place less run x
    insertAll less (run.take n ++ x :: run.drop n) rest

/-- A run of at least so many values from the front of a list, as far as the list goes, and the
rest. -/
def takeRun (less : α → α → Except ε Bool) (least : Nat) (items : List α) :
    Except ε (List α × List α) := do
  let (run, rest) ← frontRun less items
  let longer ← insertAll less run (rest.take (least - run.length))
  return (longer, rest.drop (least - run.length))

end PackageBuild.Sorting
