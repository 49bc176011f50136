import PackageBuild.Json.Escape
import PackageBuild.Value.Display
import PackageBuild.Value.Order

/-!
# Values in JSON

A map is written as JSON text with its entries in the order of their keys, a comma and a blank
between entries and a colon and a blank behind keys. Keys that are numbers, truth values or nothing
are written as strings after the ordering. A value that JSON has no form for is written as the
string of its plain text. Integers are written whatever their length.
-/

namespace PackageBuild.Value

open Number

/-- A floating-point number in JSON text. -/
def writtenFloat : Binary64 → String
  | .nan => "NaN"
  | .infinite negative => if negative then "-Infinity" else "Infinity"
  | x => shortestText x

/-- The text of a key. -/
def writtenKey : Value → Except Fault String
  | text s => .ok s
  | member m => .ok m.text
  | float x => .ok (writtenFloat x)
  | bool b => .ok (if b then "true" else "false")
  | null => .ok "null"
  | int n => .ok (Text.integerText n)
  | v => .error (.writtenKey v.typeName)

/-- The entries of a map that are written already, put in order behind their keys. -/
def writtenMap (entries : List (Value × Except Fault String)) : Except Fault String := do
  let sorted ← sortEntries entries
  let parts ← sorted.mapM fun (k, v) => do
    let key ← writtenKey k
    return Json.string key ++ ": " ++ (← v)
  return "\x7b" ++ Text.joined ", " parts ++ "\x7d"

mutual

/-- A value as JSON text. -/
def written : Value → Except Fault String
  | null => .ok "null"
  | bool b => .ok (if b then "true" else "false")
  | int n => .ok (Text.integerText n)
  | float x => .ok (writtenFloat x)
  | text s => .ok (Json.string s)
  | member m => .ok (Json.string m.text)
  | list items => (writtenItems items).map fun parts => "[" ++ Text.joined ", " parts ++ "]"
  | tuple items => (writtenItems items).map fun parts => "[" ++ Text.joined ", " parts ++ "]"
  | map entries => writtenMap (writtenEntries entries)
  | complex re im => (plainText (complex re im)).map Json.string
  | bytes b => (plainText (bytes b)).map Json.string
  | path p => (plainText (path p)).map Json.string
  | set items => (plainText (set items)).map Json.string
  | record type fields => (plainText (record type fields)).map Json.string
termination_by structural v => v

/-- Every item as JSON text. -/
def writtenItems : List Value → Except Fault (List String)
  | [] => .ok []
  | v :: rest => do
    let first ← written v
    return first :: (← writtenItems rest)
termination_by structural items => items

/-- Every key beside its value as JSON text. -/
def writtenEntries : List (Value × Value) → List (Value × Except Fault String)
  | [] => []
  | (k, v) :: rest => (k, written v) :: writtenEntries rest
termination_by structural entries => entries

end

end PackageBuild.Value
