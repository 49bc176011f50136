import PackageBuild.Json.Reader
import PackageBuild.Record.Construct
import PackageBuild.Value.Equality

/-!
# Records from JSON

A JSON text is read strictly as a record: every value has the shape of its field, no field is
unknown and none without a default is missing. Of several faults the first in the text is reported,
with the place where it stands.
-/

namespace PackageBuild.Record

open Json

/-- A step from a value to one inside it. -/
inductive Place where
  | field (name : String)
  | index (n : Nat)
  | key
  deriving DecidableEq, Repr

namespace Place

/-- The text of a step. -/
def text : Place → String
  | field name => "." ++ name
  | index n => "[" ++ Text.naturalText n ++ "]"
  | key => "[...]"

/-- The end of a message that names a place. -/
def suffix (places : List Place) : String :=
  if places.isEmpty then "" else " - at `$" ++ Text.joined "" (places.map text) ++ "`"

end Place

/-- Why a text is no record. -/
inductive DecodeError where
  | unreadable (fault : Fault)
  | expected (shape got : String) (places : List Place)
  | unknownField (name : String) (places : List Place)
  | missingField (name : String) (places : List Place)
  | notMember (text : String) (places : List Place)
  /-- A number is beyond the greatest floating-point number. -/
  | numberRange (places : List Place)
  | integerRange (places : List Place)
  deriving DecidableEq, Repr

/-- The text of an error in a text of so many bytes. -/
def DecodeError.message (length : Nat) : DecodeError → String
  | unreadable .truncated => "Input data was truncated"
  | unreadable (.malformed reason remaining) =>
    "JSON is malformed: " ++ reason.text ++
      " (byte " ++ Text.naturalText (length - remaining) ++ ")"
  | expected shape got places =>
    "Expected `" ++ shape ++ "`, got `" ++ got ++ "`" ++ Place.suffix places
  | unknownField name places =>
    "Object contains unknown field `" ++ name ++ "`" ++ Place.suffix places
  | missingField name places =>
    "Object missing required field `" ++ name ++ "`" ++ Place.suffix places
  | notMember text places => "Invalid enum value " ++ Text.quoted text ++ Place.suffix places
  | numberRange places => "Number out of range" ++ Place.suffix places
  | integerRange places => "Integer value out of range" ++ Place.suffix places

/-- The name of the documents that have a shape. -/
def expectedName : Shape → String
  | .bool => "bool"
  | .int => "int"
  | .text | .choice _ => "str"
  | .optional shape => expectedName shape ++ " | null"
  | .record _ | .map _ => "object"
  | .sequence _ => "array"

/-- The shape behind an optional one. -/
def present : Shape → Shape
  | .optional shape => present shape
  | shape => shape

/-- Whether nothing has a shape. -/
def admitsNull : Shape → Bool
  | .optional _ => true
  | _ => false

/-- End with the fault that reading stopped at, if it did. -/
def unlessFault {α : Type} (fault? : Option Fault) (result : Except DecodeError α) :
    Except DecodeError α :=
  match fault? with
  | some fault => .error (.unreadable fault)
  | none => result

/-- The error about a document of another shape; a number out of range is reported first. -/
def misshapen (shape : Shape) (places : List Place) (d : Document) : DecodeError :=
  if d.overflows then .numberRange places else .expected (expectedName shape) d.kindName places

/-- The value of a document that is no array and no object. -/
def decodeAtom (shape : Shape) (places : List Place) (d : Document) : Except DecodeError Value :=
  match present shape, d with
  | _, .broken fault => .error (.unreadable fault)
  | .bool, .bool b => .ok (.bool b)
  | .int, .int n => .ok (.int n)
  | .int, .longInt _ => .error (.integerRange places)
  | .text, .text s => .ok (.text s)
  | .choice choice, .text s =>
    match choice.member? s with
    | some m => .ok (.member m)
    | none => .error (.notMember s places)
  | _, .null => if admitsNull shape then .ok .null else .error (misshapen shape places d)
  | _, _ => .error (misshapen shape places d)

/-- The record of decoded fields. -/
def assemble (type : RecordType) (places : List Place) (arguments : List (String × Value)) :
    Except DecodeError Value :=
  match fieldValues arguments type.fields with
  | .ok values => .ok (.record type values)
  | .error name => .error (.missingField name places)

mutual

/-- The value of a document of the given shape at a place. -/
def decode (shape : Shape) (places : List Place) : Document → Except DecodeError Value
  | .array items fault? =>
    match present shape with
    | .sequence item => do
      let values ← decodeItems item places 0 items
      unlessFault fault? (.ok (.tuple values))
    | _ => .error (.expected (expectedName shape) "array" places)
  | .object entries fault? =>
    match present shape with
    | .record type => do
      let arguments ← decodeFields type places entries
      unlessFault fault? (assemble type places arguments)
    | .map item => do
      let values ← decodeEntries item places entries
      unlessFault fault? (.ok (.map (Value.ofEntries values)))
    | _ => .error (.expected (expectedName shape) "object" places)
  | d => decodeAtom shape places d
termination_by structural d => d

/-- The values of items from an index on. -/
def decodeItems (shape : Shape) (places : List Place) (index : Nat) :
    List Document → Except DecodeError (List Value)
  | [] => .ok []
  | d :: rest => do
    let first ← decode shape (places ++ [.index index]) d
    return first :: (← decodeItems shape places (index + 1) rest)
termination_by structural items => items

/-- The entries of a map. -/
def decodeEntries (shape : Shape) (places : List Place) :
    List (String × Document) → Except DecodeError (List (Value × Value))
  | [] => .ok []
  | (key, d) :: rest => do
    let first ← decode shape (places ++ [.key]) d
    return (.text key, first) :: (← decodeEntries shape places rest)
termination_by structural entries => entries

/-- The fields of a record under their names. -/
def decodeFields (type : RecordType) (places : List Place) :
    List (String × Document) → Except DecodeError (List (String × Value))
  | [] => .ok []
  | (name, d) :: rest =>
    match type.fields.find? fun field => field.name == name with
    | none => .error (.unknownField name places)
    | some field => do
      let first ← decode field.shape (places ++ [.field name]) d
      return (name, first) :: (← decodeFields type places rest)
termination_by structural entries => entries

end

/-- The record that a whole JSON text is. -/
def ofJson (type : RecordType) (text : String) : Except DecodeError Value := do
  let (document, rest?) := Json.read text.toList
  let value ← decode (.record type) [] document
  match (skipBlanks (rest?.getD [])) with
  | [] => return value
  | c :: rest => throw (.unreadable (.malformed .trailingCharacters (byteLength (c :: rest) - 1)))

end PackageBuild.Record
