import PackageBuild.Sorting.Merge
import PackageBuild.Sorting.Run

/-!
# Sorting with an order that may fail

Values of different kinds may have no order, and undefined numbers are neither below nor above
others. Sorting stops at the first pair that it cannot compare, and values without a consistent
order end up where the comparisons lead, so the pairs are compared in a fixed order: the list is cut
into runs, and neighbouring runs are merged in an order that keeps the merges balanced.

Main results:

- `sort_singleton`: a single value is not compared.
-/

namespace PackageBuild.Sorting

variable {α ε : Type}

/-- The least length of a run in a list of so many values: between 32 and 64, unless the list is
shorter, such that the number of runs is a power of two or a little less. -/
def leastRun (count : Nat) (odd : Nat := 0) : Nat :=
  if count < 64 then count + odd else leastRun (count / 2) (max odd (count % 2))

/-- A run with the place where it starts and the depth of the border behind it. -/
structure Run (α : Type) where
  start : Nat
  items : List α
  /-- The depth of the border to the next run in a balanced tree of merges. -/
  depth : Nat := 0

/-- The depth of a border in a list of so many values: the first halving that puts the middles of
the runs on its two sides, given as twice their places, into different halves. -/
def borderDepth (count : Nat) : Nat → Nat → Nat → Nat
  | 0, _, _ => 0
  | fuel + 1, first, second =>
    if count ≤ first then
      1 + borderDepth count fuel (2 * (first - count)) (2 * (second - count))
    else if count ≤ second then 1
    else 1 + borderDepth count fuel (2 * first) (2 * second)

/-- The runs in front of the rest, the last one first, and the patience for merges. -/
structure Pending (α : Type) where
  runs : List (Run α) := []
  patience : Nat := longStride

/-- Merge the last two runs as long as the border between them is deeper than a given one; `fuel`
bounds the number of runs. -/
def mergeDeeper (less : α → α → Except ε Bool) (depth : Nat) :
    Nat → Pending α → Except ε (Pending α)
  | fuel + 1, ⟨last :: before :: runs, patience⟩ =>
    if depth < before.depth then do
      let (merged, patience) ← mergeRuns less patience before.items last.items
      mergeDeeper less depth fuel ⟨{ before with items := merged } :: runs, patience⟩
    else .ok ⟨last :: before :: runs, patience⟩
  | _, pending => .ok pending

/-- Put a run behind the others in a list of so many values. -/
def Pending.push (less : α → α → Except ε Bool) (count : Nat) (pending : Pending α)
    (items : List α) : Except ε (Pending α) :=
  match pending.runs with
  | [] => .ok { pending with runs := [⟨0, items, 0⟩] }
  | last :: _ => do
    let first := 2 * last.start + last.items.length
    let start := last.start + last.items.length
    let depth := borderDepth count (count + 1) first (first + last.items.length + items.length)
    let merged ← mergeDeeper less depth pending.runs.length pending
    match merged.runs with
    | [] => return { merged with runs := [⟨start, items, 0⟩] }
    | last :: runs =>
      return { merged with runs := ⟨start, items, 0⟩ :: { last with depth := depth } :: runs }

/-- Cut a list of so many values into runs; `fuel` bounds the number of values left. -/
def cutRuns (less : α → α → Except ε Bool) (count : Nat) :
    Nat → Pending α → List α → Except ε (Pending α)
  | 0, pending, _ => .ok pending
  | _, pending, [] => .ok pending
  | fuel + 1, pending, items => do
    let (run, rest) ← takeRun less (leastRun count) items
    cutRuns less count fuel (← pending.push less count run) rest

/-- Merge all runs, the shorter neighbour of the last but one first; `fuel` bounds their number. -/
def mergeAll (less : α → α → Except ε Bool) : Nat → Pending α → Except ε (List α)
  | _, ⟨[], _⟩ => .ok []
  | _, ⟨[run], _⟩ => .ok run.items
  | 0, ⟨runs, _⟩ => .ok (runs.reverse.flatMap Run.items)
  | fuel + 1, ⟨[last, before], patience⟩ => do
    let (merged, patience) ← mergeRuns less patience before.items last.items
    mergeAll less fuel ⟨[{ before with items := merged }], patience⟩
  | fuel + 1, ⟨last :: middle :: before :: runs, patience⟩ => do
    if before.items.length < last.items.length then
      let (merged, patience) ← mergeRuns less patience before.items middle.items
      mergeAll less fuel ⟨last :: { before with items := merged } :: runs, patience⟩
    else
      let (merged, patience) ← mergeRuns less patience middle.items last.items
      mergeAll less fuel ⟨{ middle with items := merged } :: before :: runs, patience⟩

/-- A list in ascending order; values of which neither is below the other keep their order. -/
def sort (less : α → α → Except ε Bool) (items : List α) : Except ε (List α) := do
  let pending ← cutRuns less items.length items.length {} items
  mergeAll less pending.runs.length pending

@[simp] theorem sort_singleton (less : α → α → Except ε Bool) (x : α) :
    sort less [x] = .ok [x] := by
  simp [sort, cutRuns, takeRun, frontRun, insertAll, Pending.push, mergeAll, bind, Except.bind,
    pure, Except.pure]

end PackageBuild.Sorting
