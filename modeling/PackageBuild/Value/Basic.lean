import PackageBuild.Number.Binary64
import PackageBuild.Path
import PackageBuild.Record.Schema
import PackageBuild.Text.Decimal

/-!
# Values

What telemetry attributes hold and what records are made of. A record has the values of its fields
in the order of its schema.

Texts consist of Unicode scalar values. Texts with surrogate code points are outside the model: no
value, document or table holds one, and `Json.stringOf` alone is defined for every code point.
-/

namespace PackageBuild

open Number

/-- A value of any kind. -/
inductive Value where
  | null
  | bool (b : Bool)
  | int (n : Int)
  | float (x : Binary64)
  | complex (re im : Binary64)
  | text (s : String)
  /-- A member of a choice, which counts as its written form. -/
  | member (m : Member)
  | bytes (bytes : List UInt8)
  | path (path : Path)
  | list (items : List Value)
  | tuple (items : List Value)
  /-- A set, its members in the order of their insertion. -/
  | set (items : List Value)
  /-- A map, its entries in the order of their insertion. -/
  | map (entries : List (Value × Value))
  | record (type : RecordType) (fields : List Value)
  deriving Repr

instance : Inhabited Value := ⟨.null⟩

namespace Value

/-- The name of the kind of a value. -/
def typeName : Value → String
  | null => "NoneType"
  | bool _ => "bool"
  | int _ => "int"
  | float _ => "float"
  | complex .. => "complex"
  | text _ => "str"
  | member m => m.choice.name
  | bytes _ => "bytes"
  | path _ => "PurePosixPath"
  | list _ => "list"
  | tuple _ => "tuple"
  | set _ => "set"
  | map _ => "dict"
  | record type _ => type.name

/-- Whether a value counts as false: nothing, a zero, or an empty text or collection. -/
def isEmpty : Value → Bool
  | null => true
  | bool b => !b
  | int n => n == 0
  | float x => x.isZero
  | complex re im => re.isZero && im.isZero
  | text s => s == ""
  | bytes items => items.isEmpty
  | list items | tuple items | set items => items.isEmpty
  | map entries => entries.isEmpty
  | member _ | path _ | record .. => false

/-- Whether a value counts as true. -/
def isTrue (v : Value) : Bool := !v.isEmpty

/-- The text of a text or of a member of a choice. -/
def asText? : Value → Option String
  | text s => some s
  | member m => some m.text
  | _ => none

/-- The integer of an integer or of a truth value. -/
def asInt? : Value → Option Int
  | bool b => some (if b then 1 else 0)
  | int n => some n
  | _ => none

end Value

/-- What can be wrong with a value. -/
inductive Value.Fault where
  | notOrdered (left right : String)
  /-- A value of this kind cannot be a key of a written map. -/
  | writtenKey (typeName : String)
  | plainKey
  | noPlainForm (typeName : String)
  | noPart (typeName part : String)
  /-- A value of this kind cannot be merged into a map. -/
  | notMap (typeName : String)
  /-- A value of this kind cannot be a key or a member of a set. -/
  | notHashable (typeName : String)
  /-- A value of this kind does not stand for an integer. -/
  | notInteger (typeName : String)
  | indexTooLarge
  /-- An item at a place among texts to join is of this kind. -/
  | notText (place : Nat) (typeName : String)
  | notIterable (typeName : String)
  /-- A value of this kind has no items to hand over to a function. -/
  | notHanded (callee typeName : String)
  /-- A value of this kind has no items to take apart. -/
  | notParts (typeName : String)
  /-- There are so many items, fewer than are wanted. -/
  | fewItems (wanted count : Nat)
  | manyItems (wanted : Nat)
  | notName (typeName : String)
  /-- A value of this kind is no text for the system. -/
  | notSystemText (typeName : String)
  | noLength (typeName : String)
  | notPath (typeName : String)
  /-- A value of this kind would be a path, were it no bytes. -/
  | bytesPath (typeName : String)
  deriving DecidableEq, Repr

namespace Value.Fault

/-- The text of a fault. -/
def message : Value.Fault → String
  | notOrdered left right =>
    "'<' not supported between instances of '" ++ left ++ "' and '" ++ right ++ "'"
  | writtenKey name => "keys must be str, int, float, bool or None, not " ++ name
  | plainKey => "Only dicts with str-like or number-like keys are supported"
  | noPlainForm name => "Unsupported type for builtins conversion: <class '" ++ name ++ "'>"
  | noPart name part => "'" ++ name ++ "' object has no attribute '" ++ part ++ "'"
  | notMap name => "'" ++ name ++ "' object is not a mapping"
  | notHashable name => "unhashable type: '" ++ name ++ "'"
  | notInteger name => "'" ++ name ++ "' object cannot be interpreted as an integer"
  | indexTooLarge => "cannot fit 'int' into an index-sized integer"
  | notText place name =>
    "sequence item " ++ Text.naturalText place ++ ": expected str instance, " ++ name ++ " found"
  | notIterable name => "'" ++ name ++ "' object is not iterable"
  | notHanded callee name => callee ++ " after * must be an iterable, not " ++ name
  | notParts name => "cannot unpack non-iterable " ++ name ++ " object"
  | fewItems wanted count =>
    "not enough values to unpack (expected " ++ Text.naturalText wanted ++ ", got " ++
      Text.naturalText count ++ ")"
  | manyItems wanted =>
    "too many values to unpack (expected " ++ Text.naturalText wanted ++ ")"
  | notName name => "attribute name must be string, not '" ++ name ++ "'"
  | notSystemText name => "str expected, not " ++ name
  | noLength name => "object of type '" ++ name ++ "' has no len()"
  | notPath name => "expected str, bytes or os.PathLike object, not " ++ name
  | bytesPath name =>
    "argument should be a str object or an os.PathLike object returning str, not <class '" ++
      name ++ "'>"

end Value.Fault

namespace Default

/-- The value of a default. -/
def toValue : Default → Value
  | emptyText => .text ""
  | emptySequence => .tuple []
  | nothing => .null
  | no => .bool false

/-- Whether a value is the default itself. -/
def matchesValue : Default → Value → Bool
  | emptyText, .text s => s == ""
  | emptySequence, .tuple items => items.isEmpty
  | nothing, .null => true
  | no, .bool b => !b
  | _, _ => false

theorem matchesValue_iff {d : Default} {v : Value} : d.matchesValue v = true ↔ v = d.toValue := by
  cases d <;> cases v <;> simp [matchesValue, toValue]

end Default

/-- Whether a field is left out when its record is written. -/
def Field.omits (field : Field) (v : Value) : Bool :=
  match field.default? with
  | none => false
  | some d => d.matchesValue v

end PackageBuild
