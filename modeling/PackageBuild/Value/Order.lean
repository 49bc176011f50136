import PackageBuild.Sorting
import PackageBuild.Text.Sorted
import PackageBuild.Value.Equality

/-!
# Order of values

Numbers are ordered by value, texts by code point, bytes and paths by their parts, lists and tuples
by their first difference, and a set is below the sets that it is a proper part of. Two values of
other kinds have no order.

Main results:

- `sortEntries_texts`: entries with texts as keys are put in order whatever they hold.
-/

namespace PackageBuild.Value

open Number

/-- Whether one value is below another, neither being a list nor a tuple. -/
def lessAtom (x y : Value) : Except Fault Bool :=
  match asReal? x, asReal? y with
  | some a, some b => .ok (a.compare? b = some .lt)
  | _, _ =>
    match asText? x, asText? y with
    | some s, some t => .ok (decide (s < t))
    | _, _ =>
      match x, y with
      | bytes a, bytes b => .ok (decide (a < b))
      | path a, path b => .ok (decide (a.sortKey < b.sortKey))
      | set a, set b => .ok (decide (a.length < b.length) && membersIn a b)
      | _, _ => .error (.notOrdered x.typeName y.typeName)

mutual

/-- Whether one value is below another. -/
def less : Value → Value → Except Fault Bool
  | list xs, list ys => lessItems xs ys
  | tuple xs, tuple ys => lessItems xs ys
  | x, y => lessAtom x y
termination_by structural x => x

/-- Whether one list of values is below another at their first difference. -/
def lessItems : List Value → List Value → Except Fault Bool
  | [], ys => .ok (!ys.isEmpty)
  | _ :: _, [] => .ok false
  | x :: xs, y :: ys => if same x y then lessItems xs ys else less x y
termination_by structural xs => xs

end

/-- An entry beside the text that its key is. -/
def textEntry? {α : Type} (entry : Value × α) : Option (String × Value × α) :=
  (asText? entry.1).map fun s => (s, entry)

/-- Entries with texts in ascending order of these. -/
def sortTextEntries {α : Type} (entries : List (String × Value × α)) : List (Value × α) :=
  (entries.mergeSort fun x y => Text.atMost x.1 y.1).map Prod.snd

/-- Entries in ascending order of their keys. Texts always have an order; other keys are compared
pair by pair. -/
def sortEntries {α : Type} (entries : List (Value × α)) : Except Fault (List (Value × α)) :=
  match entries.mapM textEntry? with
  | some texts => .ok (sortTextEntries texts)
  | none => Sorting.sort (fun x y => less x.1 y.1) entries

/-- Entries with texts as keys are put in order whatever they hold. -/
theorem sortEntries_texts {α : Type} {entries : List (Value × α)}
    {texts : List (String × Value × α)} (h : entries.mapM textEntry? = some texts) :
    sortEntries entries = .ok (sortTextEntries texts) := by
  rw [sortEntries, h]

end PackageBuild.Value
