import PackageBuild.Json.Reader
import PackageBuild.Value.Basic

/-!
# Values from JSON

A JSON document stands for a value: its objects are maps from texts, its arrays are lists, and its
numbers with a fraction or an exponent are floating-point numbers, even if they are whole. The
entries of such a map are found by their names.

Main results:

- `field?_object`: an entry of an object is the first one under its name.
-/

namespace PackageBuild.Value

mutual

/-- The value that a document stands for; what was not read is nothing. -/
def ofDocument : Json.Document → Value
  | .null | .broken _ => null
  | .bool b => bool b
  | .int n | .longInt n => int n
  | .decimal written => float ((Number.binary64? (String.ofList written)).getD .nan)
  | .text s => text s
  | .array items _ => list (documentItems items)
  | .object entries _ => map (documentEntries entries)
termination_by structural d => d

/-- The values that the items of an array stand for. -/
def documentItems : List Json.Document → List Value
  | [] => []
  | d :: rest => ofDocument d :: documentItems rest
termination_by structural items => items

/-- The entries of the map that the entries of an object stand for. -/
def documentEntries : List (String × Json.Document) → List (Value × Value)
  | [] => []
  | (name, d) :: rest => (text name, ofDocument d) :: documentEntries rest
termination_by structural entries => entries

end

/-- The value that a JSON text stands for. -/
def ofJson? (s : String) : Option Value := (Json.document? s).map ofDocument

/-- A map from texts. -/
def object (entries : List (String × Value)) : Value :=
  map (entries.map fun (name, v) => (text name, v))

/-- The entries of a map whose keys are texts. -/
def namedEntries : List (Value × Value) → List (String × Value)
  | [] => []
  | (text name, v) :: rest => (name, v) :: namedEntries rest
  | _ :: rest => namedEntries rest

/-- The entry of a map under a name. -/
def field? (name : String) : Value → Option Value
  | map entries => (namedEntries entries).lookup name
  | _ => none

@[simp] theorem namedEntries_object (entries : List (String × Value)) :
    namedEntries (entries.map fun (name, v) => (text name, v)) = entries := by
  induction entries with
  | nil => rfl
  | cons entry rest ih => simp [namedEntries, ih]

/-- An entry of an object is the first one under its name. -/
theorem field?_object (name : String) (entries : List (String × Value)) :
    field? name (object entries) = entries.lookup name := by
  simp [field?, object]

end PackageBuild.Value
