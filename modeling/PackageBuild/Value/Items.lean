import PackageBuild.Value.Display

/-!
# Items of values

A collection has items, and a text has its characters as items. Other values have none, not even an
empty list of them.
-/

namespace PackageBuild.Value

/-- The characters of a text as texts. -/
def characters (s : String) : List Value := s.toList.map fun c => text (String.ofList [c])

/-- The items of a value in order; those of a map are its keys. -/
def items : Value → Except Fault (List Value)
  | list items | tuple items | set items => .ok items
  | map entries => .ok (entries.map Prod.fst)
  | text s => .ok (characters s)
  | member m => .ok (characters m.text)
  | bytes b => .ok (b.map fun byte => int byte.toNat)
  | v => .error (.notIterable v.typeName)

/-- The two items of a value that has two. -/
def pair (v : Value) : Except Fault (Value × Value) :=
  match items v with
  | .error _ => .error (.notParts v.typeName)
  | .ok [a, b] => .ok (a, b)
  | .ok values =>
    .error (if values.length < 2 then .fewItems 2 values.length else .manyItems 2)

/-- The text of a value that must be a name. -/
def name (v : Value) : Except Fault String :=
  match v.asText? with
  | some s => .ok s
  | none => .error (.notName v.typeName)

/-- The text of a value that the system must know. -/
def systemText (v : Value) : Except Fault String :=
  match v.asText? with
  | some s => .ok s
  | none => .error (.notSystemText v.typeName)

/-- The items of a value that are handed over one by one to a function. -/
def handedItems (callee : String) (v : Value) : Except Fault (List Value) :=
  (items v).mapError fun _ => .notHanded callee v.typeName

/-- The items of a value that is asked for its length first. -/
def countedItems (v : Value) : Except Fault (List Value) :=
  (items v).mapError fun _ => .noLength v.typeName

end PackageBuild.Value
