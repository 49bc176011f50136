import PackageBuild.Value.Basic

/-!
# Equality of values

Numbers are equal when they have the same value, whatever their kind, truth values counting as zero
and one. A member of a choice equals its written form. Sets and maps are equal as sets and as finite
maps. The undefined number equals nothing.

Main results:

- `same_text`: texts are equal as texts.
-/

namespace PackageBuild.Value

open Number

/-- A number as an integer or in floating point. -/
inductive Real where
  | whole (n : Int)
  | floating (x : Binary64)

namespace Real

/-- The order of two numbers; none when one is undefined. -/
def compare? : Real → Real → Option Ordering
  | whole m, whole n => some (compare m n)
  | whole m, floating y => Binary64.compareInt? m y
  | floating x, whole n => (Binary64.compareInt? n x).map Ordering.swap
  | floating x, floating y => Binary64.compare? x y

/-- Whether two numbers are equal. -/
def same (x y : Real) : Bool := compare? x y = some .eq

end Real

/-- The number of an integer, a truth value or a floating-point number. -/
def asReal? : Value → Option Real
  | bool b => some (.whole (if b then 1 else 0))
  | int n => some (.whole n)
  | float x => some (.floating x)
  | _ => none

/-- The two parts of a number. -/
def asComplex? : Value → Option (Real × Real)
  | complex re im => some (.floating re, .floating im)
  | v => (asReal? v).map fun x => (x, .whole 0)

/-- Equality of two values of which one is no collection. -/
def sameAtom (x y : Value) : Bool :=
  match asText? x, asText? y with
  | some s, some t => s == t
  | some _, none | none, some _ => false
  | none, none =>
    match asComplex? x, asComplex? y with
    | some (a, b), some (c, d) => a.same c && b.same d
    | some _, none | none, some _ => false
    | none, none =>
      match x, y with
      | null, null => true
      | bytes a, bytes b => a == b
      | path a, path b => a == b
      | _, _ => false

mutual

/-- Whether two values are equal. -/
def same : Value → Value → Bool
  | list xs, list ys => sameItems xs ys
  | tuple xs, tuple ys => sameItems xs ys
  | set xs, set ys => xs.length == ys.length && membersIn xs ys
  | map xs, map ys => xs.length == ys.length && entriesIn xs ys
  | record t xs, record u ys => decide (t = u) && sameItems xs ys
  | x, y => sameAtom x y
termination_by structural x => x

/-- Whether two lists have equal items in the same order. -/
def sameItems : List Value → List Value → Bool
  | [], [] => true
  | x :: xs, y :: ys => same x y && sameItems xs ys
  | _, _ => false
termination_by structural xs => xs

/-- Whether every item has its equal in the second list. -/
def membersIn : List Value → List Value → Bool
  | [], _ => true
  | x :: xs, ys => (ys.any fun y => same x y) && membersIn xs ys
termination_by structural xs => xs

/-- Whether every entry has its equal in the second list. -/
def entriesIn : List (Value × Value) → List (Value × Value) → Bool
  | [], _ => true
  | (k, v) :: xs, ys => (ys.any fun e => same k e.1 && same v e.2) && entriesIn xs ys
termination_by structural xs => xs

end

theorem same_text (s t : String) : same (text s) (text t) = (s == t) := by
  simp [same, sameAtom, asText?]

/-! ## Maps and sets -/

/-- The entries with the value of a key replaced, or none when the key is new. -/
def replaceKnown? (key value : Value) : List (Value × Value) → Option (List (Value × Value))
  | [] => none
  | (k, v) :: rest =>
    if same key k then some ((k, value) :: rest)
    else (replaceKnown? key value rest).map ((k, v) :: ·)

/-- A new key goes to the end; a known key keeps its place and its form and gets the new value. -/
def insertEntry (entries : List (Value × Value)) (key value : Value) : List (Value × Value) :=
  (replaceKnown? key value entries).getD (entries ++ [(key, value)])

/-- The entries of a map, of which later ones overwrite earlier ones with an equal key. -/
def ofEntries (entries : List (Value × Value)) : List (Value × Value) :=
  entries.foldl (fun before entry => insertEntry before entry.1 entry.2) []

/-- The members of a set, each once. -/
def ofMembers (members : List Value) : List Value :=
  members.foldl (fun before x => if before.any (same x) then before else before ++ [x]) []

mutual

/-- The kind of the first part of a value that cannot be a key. -/
def notHashable? : Value → Option String
  | list _ => some "list"
  | set _ => some "set"
  | map _ => some "dict"
  | tuple items => anyNotHashable? items
  | record _ fields => anyNotHashable? fields
  | _ => none

/-- The kind of the first item that cannot be a key. -/
def anyNotHashable? : List Value → Option String
  | [] => none
  | x :: xs => (notHashable? x).or (anyNotHashable? xs)

end

/-- The map of a list of entries, whose keys must be fit for it. -/
def mapOf (entries : List (Value × Value)) : Except Fault Value :=
  match entries.findSome? fun entry => notHashable? entry.1 with
  | some name => .error (.notHashable name)
  | none => .ok (map (ofEntries entries))

/-- Whether a number is not above another one. -/
def notAbove (x y : Real) : Bool := x.compare? y != some .gt

/-- The members of a set in the order in which they are shown: numbers ascend, as long as there is
nothing else, and all others stay in their order. -/
def arranged (members : List Value) : List Value :=
  match members.mapM fun v => v.asReal?.map fun x => (x, v) with
  | some numbers => (numbers.mergeSort fun a b => notAbove a.1 b.1).map Prod.snd
  | none => members

/-- The set of a list of members, which must be fit for it. -/
def setOf (members : List Value) : Except Fault Value :=
  match anyNotHashable? members with
  | some name => .error (.notHashable name)
  | none => .ok (set (arranged (ofMembers members)))

end PackageBuild.Value
