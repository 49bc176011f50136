/-!
# Searching in sorted runs

The values of a sorted run that belong in front of a new value are counted, either by halving or by
strides that double from a place where the count is expected. The comparison may fail, and then so
does the search.
-/

namespace PackageBuild.Sorting

variable {α ε : Type}

/-- The first place from `low` to `high` that a test does not pass, found by halving; `fuel` bounds
the distance. -/
def narrow (passes : Nat → Except ε Bool) : Nat → Nat → Nat → Except ε Nat
  | 0, _, high => .ok high
  | fuel + 1, low, high =>
    if low < high then do
      let middle := low + (high - low) / 2
      if ← passes middle then narrow passes fuel (middle + 1) high
      else narrow passes fuel low middle
    else .ok high

/-- Strides of lengths 1, 3, 7 and so on, as long as they stay below a bound and pass a test: the
last one that passed and the next one; `fuel` bounds their number. -/
def stride (passes : Nat → Except ε Bool) (bound : Nat) : Nat → Nat → Nat → Except ε (Nat × Nat)
  | 0, last, next => .ok (last, next)
  | fuel + 1, last, next =>
    if next < bound then do
      if ← passes next then stride passes bound fuel next (2 * next + 1)
      else .ok (last, next)
    else .ok (last, next)

/-- The first of `count` places that a test does not pass, looked for in strides from a hint. -/
def gallop (passes : Nat → Except ε Bool) (count hint : Nat) : Except ε Nat := do
  if ← passes hint then
    let bound := count - hint
    let (last, next) ← stride (fun n => passes (hint + n)) bound bound 0 1
    narrow passes count (hint + last + 1) (hint + min next bound)
  else
    let bound := hint + 1
    let (last, next) ← stride (fun n => (passes (hint - n)).map not) bound bound 0 1
    narrow passes count (hint + 1 - min next bound) (hint - last)

/-- Whether the value at a place of a run is not above a value. -/
def isNotAbove (less : α → α → Except ε Bool) (run : List α) (x : α) (place : Nat) :
    Except ε Bool :=
  match run[place]? with
  | some y => (less x y).map not
  | none => .ok false

/-- Whether the value at a place of a run is below a value. -/
def isBelow (less : α → α → Except ε Bool) (run : List α) (x : α) (place : Nat) :
    Except ε Bool :=
  match run[place]? with
  | some y => less y x
  | none => .ok false

/-- The number of values of a sorted run that are not above a value, looked for from a hint. -/
def countNotAbove (less : α → α → Except ε Bool) (run : List α) (x : α) (hint : Nat) :
    Except ε Nat :=
  if run.isEmpty then .ok 0 else gallop (isNotAbove less run x) run.length hint

/-- The number of values of a sorted run that are below a value, looked for from a hint. -/
def countBelow (less : α → α → Except ε Bool) (run : List α) (x : α) (hint : Nat) :
    Except ε Nat :=
  if run.isEmpty then .ok 0 else gallop (isBelow less run x) run.length hint

end PackageBuild.Sorting
