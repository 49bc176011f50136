import PackageBuild.Sorting.Search

/-!
# Merging sorted runs

Two neighbouring runs are merged from the front, or from the back when the second one is shorter.
Values go over one by one until one run has won often enough in a row; then whole strides go over as
long as they are long. How much patience that takes is learned on the way. Of values of which
neither is below the other, those of the first run come first.
-/

namespace PackageBuild.Sorting

variable {α ε : Type}

/-- Strides of at least this length are worth looking for. -/
def longStride : Nat := 7

/-- The patience when it has shrunk by one, which it does down to one. -/
def lessPatience (patience : Nat) : Nat := if 1 < patience then patience - 1 else patience

/-- A merged run and the patience for the next merge. -/
abbrev Merged (α : Type) := List α × Nat

/-! ## From the front -/

mutual

/-- Merge two runs behind a reversed front part one value at a time, given how often each run has
won in a row; `fuel` bounds the number of values. -/
def frontByOne (less : α → α → Except ε Bool) (fuel patience firstWins secondWins : Nat)
    (out xs ys : List α) : Except ε (Merged α) :=
  match fuel, xs, ys with
  | fuel + 1, x :: xs', y :: ys' => do
    if ← less y x then
      if ys'.isEmpty then .ok (out.reverse ++ y :: xs, patience)
      else if patience ≤ secondWins + 1 then
        frontByStride less fuel (patience + 1) (y :: out) xs ys'
      else frontByOne less fuel patience 0 (secondWins + 1) (y :: out) xs ys'
    else if xs'.length = 1 then .ok (out.reverse ++ x :: ys ++ xs', patience)
    else if patience ≤ firstWins + 1 then
      frontByStride less fuel (patience + 1) (x :: out) xs' ys
    else frontByOne less fuel patience (firstWins + 1) 0 (x :: out) xs' ys
  | _, xs, ys => .ok (out.reverse ++ xs ++ ys, patience)
termination_by structural fuel

/-- Merge two runs behind a reversed front part by strides. -/
def frontByStride (less : α → α → Except ε Bool) (fuel patience : Nat) (out xs ys : List α) :
    Except ε (Merged α) :=
  match fuel, ys with
  | fuel + 1, y :: ys => do
    let patience := lessPatience patience
    let first ← countNotAbove less xs y 0
    let out := (xs.take first).reverse ++ out
    match xs.drop first with
    | [] => .ok (out.reverse ++ y :: ys, patience)
    | x :: rest =>
      if first ≠ 0 ∧ rest.isEmpty then .ok (out.reverse ++ y :: ys ++ [x], patience)
      else if ys.isEmpty then .ok (out.reverse ++ y :: x :: rest, patience)
      else
        let second ← countBelow less ys x 0
        let out := (ys.take second).reverse ++ y :: out
        let ys := ys.drop second
        if ys.isEmpty then .ok (out.reverse ++ x :: rest, patience)
        else if rest.length = 1 then .ok (out.reverse ++ x :: ys ++ rest, patience)
        else if longStride ≤ first ∨ longStride ≤ second then
          frontByStride less fuel patience (x :: out) rest ys
        else frontByOne less fuel (patience + 1) 0 0 (x :: out) rest ys
  | _, ys => .ok (out.reverse ++ xs ++ ys, patience)
termination_by structural fuel

end

/-- Merge two runs of which the second one starts below the first one and ends above it. -/
def mergeFront (less : α → α → Except ε Bool) (patience : Nat) (xs ys : List α) :
    Except ε (Merged α) :=
  match ys with
  | [] => .ok (xs, patience)
  | y :: rest =>
    if rest.isEmpty then .ok (y :: xs, patience)
    else if xs.length = 1 then .ok (y :: rest ++ xs, patience)
    else frontByOne less (xs.length + ys.length) patience 0 0 [y] xs rest

/-! ## From the back -/

mutual

/-- Merge two reversed runs in front of a back part one value at a time, given how often each run
has won in a row; `fuel` bounds the number of values. -/
def backByOne (less : α → α → Except ε Bool) (fuel patience firstWins secondWins : Nat)
    (xs ys out : List α) : Except ε (Merged α) :=
  match fuel, xs, ys with
  | fuel + 1, x :: xs', y :: ys' => do
    if ← less y x then
      if xs'.isEmpty then .ok (ys.reverse ++ x :: out, patience)
      else if patience ≤ firstWins + 1 then
        backByStride less fuel (patience + 1) xs' ys (x :: out)
      else backByOne less fuel patience (firstWins + 1) 0 xs' ys (x :: out)
    else if ys'.length = 1 then .ok (ys' ++ xs.reverse ++ y :: out, patience)
    else if patience ≤ secondWins + 1 then
      backByStride less fuel (patience + 1) xs ys' (y :: out)
    else backByOne less fuel patience 0 (secondWins + 1) xs ys' (y :: out)
  | _, xs, ys => .ok (xs.reverse ++ ys.reverse ++ out, patience)
termination_by structural fuel

/-- Merge two reversed runs in front of a back part by strides. -/
def backByStride (less : α → α → Except ε Bool) (fuel patience : Nat) (xs ys out : List α) :
    Except ε (Merged α) :=
  match fuel, ys with
  | fuel + 1, y :: ys => do
    let patience := lessPatience patience
    let kept ← countNotAbove less xs.reverse y (xs.length - 1)
    let first := xs.length - kept
    let out := (xs.take first).reverse ++ out
    match xs.drop first with
    | [] => .ok (ys.reverse ++ y :: out, patience)
    | x :: rest =>
      let out := y :: out
      if ys.length = 1 then .ok (ys ++ rest.reverse ++ x :: out, patience)
      else
        let kept ← countBelow less ys.reverse x (ys.length - 1)
        let second := ys.length - kept
        let out := (ys.take second).reverse ++ out
        let ys := ys.drop second
        if ys.length ≤ 1 then .ok (ys ++ rest.reverse ++ x :: out, patience)
        else if rest.isEmpty then .ok (ys.reverse ++ x :: out, patience)
        else if longStride ≤ first ∨ longStride ≤ second then
          backByStride less fuel patience rest ys (x :: out)
        else backByOne less fuel (patience + 1) 0 0 rest ys (x :: out)
  | _, ys => .ok (xs.reverse ++ ys.reverse ++ out, patience)
termination_by structural fuel

end

/-- Merge two runs of which the first one ends above the second one and starts below it. -/
def mergeBack (less : α → α → Except ε Bool) (patience : Nat) (xs ys : List α) :
    Except ε (Merged α) :=
  match xs.reverse with
  | [] => .ok (ys, patience)
  | x :: rest =>
    if rest.isEmpty then .ok (ys ++ [x], patience)
    else if ys.length = 1 then .ok (ys ++ rest.reverse ++ [x], patience)
    else backByOne less (xs.length + ys.length) patience 0 0 rest ys.reverse [x]

/-! ## Whole runs -/

/-- Merge two neighbouring runs. The front of the first one and the back of the second one that are
in place already are left out first. -/
def mergeRuns (less : α → α → Except ε Bool) (patience : Nat) (xs ys : List α) :
    Except ε (Merged α) :=
  match ys with
  | [] => .ok (xs, patience)
  | y :: _ => do
    let front ← countNotAbove less xs y 0
    match (xs.drop front).getLast? with
    | none => return (xs ++ ys, patience)
    | some x =>
      let count ← countBelow less ys x (ys.length - 1)
      let first := xs.drop front
      let second := ys.take count
      if second.isEmpty then return (xs ++ ys, patience)
      let (merged, patience) ←
        if first.length ≤ second.length then mergeFront less patience first second
        else mergeBack less patience first second
      return (xs.take front ++ merged ++ ys.drop count, patience)

end PackageBuild.Sorting
