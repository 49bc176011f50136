import PackageBuild.Number.Shortest
import PackageBuild.Text.Base64
import PackageBuild.Value.Order

/-!
# Plain form of values

The plain form has nothing, truth values, numbers, texts, lists, tuples and maps only: a member
becomes its written form, a path its text, bytes their base64 text, a set the list of its members in
order, and a record the map of its fields that do not have their default. The keys of a map are put
in order, so that equal maps have one plain form.

Main results:

- `textKey_text`: a text is its own key.
-/

namespace PackageBuild.Value

open Number

/-- The key of a plain map made from a plain value; with `textKeys`, numbers become texts and other
keys are refused. -/
def plainKey (textKeys : Bool) (v : Value) : Except Fault Value :=
  if textKeys then
    match v with
    | text s => .ok (text s)
    | int n => .ok (text (Text.integerText n))
    | float x => .ok (text (shortestText x))
    | _ => .error .plainKey
  else .ok v

/-- Refuse a value that cannot be a key; a record that was a key cannot be one in its plain form. -/
def checkHashable (v : Value) : Except Fault Unit :=
  match notHashable? v with
  | some name => .error (.notHashable name)
  | none => .ok ()

/-- The entries of a plain map in the order of their keys; of entries whose keys have become equal
the last one is kept. -/
def plainMap (entries : List (Value × Value)) : Except Fault Value :=
  (sortEntries (ofEntries entries)).map map

mutual

/-- The plain form of a value. -/
def plain (textKeys : Bool) : Value → Except Fault Value
  | null => .ok null
  | bool b => .ok (bool b)
  | int n => .ok (int n)
  | float x => .ok (float x)
  | complex re im => .error (.noPlainForm (complex re im).typeName)
  | text s => .ok (text s)
  | member m => .ok (text m.text)
  | bytes b => .ok (text (String.ofList (Text.Base64.encode b)))
  | path p => .ok (text p.text)
  | list items => (plainItems textKeys items).map list
  | tuple items => (plainItems textKeys items).map tuple
  | set items => do
    let results ← sortEntries (plainAttempts textKeys items)
    (results.mapM Prod.snd).map list
  | map entries => do plainMap (← plainEntries textKeys entries)
  | record type fields => (plainFields textKeys type.fields fields).map map
termination_by structural v => v

/-- The plain forms of items. -/
def plainItems (textKeys : Bool) : List Value → Except Fault (List Value)
  | [] => .ok []
  | v :: rest => do
    let first ← plain textKeys v
    return first :: (← plainItems textKeys rest)
termination_by structural items => items

/-- Every item beside its plain form. -/
def plainAttempts (textKeys : Bool) : List Value → List (Value × Except Fault Value)
  | [] => []
  | v :: rest => (v, plain textKeys v) :: plainAttempts textKeys rest
termination_by structural items => items

/-- The plain forms of entries. -/
def plainEntries (textKeys : Bool) : List (Value × Value) → Except Fault (List (Value × Value))
  | [] => .ok []
  | (k, v) :: rest => do
    let key ← plainKey textKeys (← plain textKeys k)
    let value ← plain textKeys v
    checkHashable key
    return (key, value) :: (← plainEntries textKeys rest)
termination_by structural entries => entries

/-- The plain forms of the fields that do not have their default, under their names. -/
def plainFields (textKeys : Bool) : List Field → List Value → Except Fault (List (Value × Value))
  | field :: fields, v :: rest => do
    if field.omits v then plainFields textKeys fields rest
    else
      let value ← plain textKeys v
      return (text field.name, value) :: (← plainFields textKeys fields rest)
  | _, _ => .ok []
termination_by structural _ values => values

end

theorem textKey_text (textKeys : Bool) (s : String) :
    plainKey textKeys (text s) = .ok (text s) := by
  cases textKeys <;> rfl

end PackageBuild.Value
