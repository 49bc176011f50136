import PackageBuild.Environment
import PackageBuild.Text.Numeral
import PackageBuild.Value.Written

/-!
# Span attributes

A span takes texts, truth values and numbers, and sequences of one of these kinds, as attributes.
Other values are normalised: a map becomes its JSON text, a sequence of mixed kinds the texts of its
items, and anything else its plain text. Texts are cut to a length limit.

Main results:

- `cut_none` and `cut_of_nonpos`: no limit keeps a text, and a limit of zero or less empties it.
-/

namespace PackageBuild.Telemetry

open Number

/-- The attribute that a span takes. -/
inductive Attribute where
  | text (s : String)
  | bool (b : Bool)
  | int (n : Int)
  | float (x : Binary64)
  /-- A sequence of texts; the empty sequence as well. -/
  | texts (items : List String)
  | bools (items : List Bool)
  | ints (items : List Int)
  | floats (items : List Binary64)
  deriving DecidableEq, Repr

namespace Attribute

/-- An attribute as a value. -/
def toValue : Attribute → Value
  | text s => .text s
  | bool b => .bool b
  | int n => .int n
  | float x => .float x
  | texts items => .list (items.map .text)
  | bools items => .list (items.map .bool)
  | ints items => .list (items.map .int)
  | floats items => .list (items.map .float)

end Attribute

/-! ## The length limit -/

/-- The variable that sets the length limit. -/
def limitVariable : String := "OTEL_ATTRIBUTE_VALUE_LENGTH_LIMIT"

/-- The length limit that a text asks for; a text that is no numeral asks for none. -/
def limitOfText? (text : String) : Option Int :=
  Text.Numeral.integer? (Text.stripBlanks text.toList)

/-- The length limit that an environment asks for. -/
def limitOf? (e : Environment) : Option Int := (e.value? limitVariable).bind limitOfText?

/-- The front of a text that a length limit leaves. -/
def cut (limit? : Option Int) (s : String) : String :=
  match limit? with
  | none => s
  | some limit => String.ofList (s.toList.take limit.toNat)

@[simp] theorem cut_none (s : String) : cut none s = s := rfl

theorem cut_of_nonpos {limit : Int} (h : limit ≤ 0) (s : String) : cut (some limit) s = "" := by
  simp [cut, Int.toNat_of_nonpos h]

/-! ## Normalisation -/

/-- The truth value of an item. -/
def asBool? : Value → Option Bool
  | .bool b => some b
  | _ => none

/-- The integer of an item that is no truth value. -/
def asInteger? : Value → Option Int
  | .int n => some n
  | _ => none

/-- The floating-point number of an item. -/
def asFloat? : Value → Option Binary64
  | .float x => some x
  | _ => none

/-- Whether a value is something. -/
def isPresent : Value → Bool
  | .null => false
  | _ => true

/-- The plain text of a value, cut to a length limit. -/
def cutText (limit? : Option Int) (v : Value) : Except Value.Fault String :=
  v.plainText.map (cut limit?)

/-- A sequence as an attribute, without the items that are nothing. -/
def ofSequence (limit? : Option Int) (items : List Value) : Except Value.Fault Attribute :=
  let present := items.filter isPresent
  if present.isEmpty then .ok (.texts [])
  else match present.mapM asBool?, present.mapM asInteger?, present.mapM asFloat? with
    | some bools, _, _ => .ok (.bools bools)
    | none, some ints, _ => .ok (.ints ints)
    | none, none, some floats => .ok (.floats floats)
    | none, none, none => (present.mapM (cutText limit?)).map .texts

/-- A value as an attribute. -/
def ofValue (limit? : Option Int) : Value → Except Value.Fault Attribute
  | .text s => .ok (.text (cut limit? s))
  | .member m => .ok (.text (cut limit? m.text))
  | .bool b => .ok (.bool b)
  | .int n => .ok (.int n)
  | .float x => .ok (.float x)
  | .map entries => (Value.written (.map entries)).map fun s => .text (cut limit? s)
  | .list items | .tuple items => ofSequence limit? items
  | v => (cutText limit? v).map .text

/-- Attributes under their names. -/
abbrev Attributes := OrderedMap String Attribute

/-- The entries of a map as attributes, put behind those that are there already. -/
def addEntries (limit? : Option Int) (before : Attributes) :
    List (Value × Value) → Except Value.Fault Attributes
  | [] => .ok before
  | (k, v) :: rest =>
    if isPresent v then do
      let key ← k.plainText
      let value ← ofValue limit? v
      addEntries limit? (before.insert key value) rest
    else addEntries limit? before rest

/-- The attributes of a map; an empty value of any kind has none. -/
def normalise (limit? : Option Int) (attributes : Value) : Except Value.Fault Attributes :=
  if attributes.isEmpty then .ok .empty
  else match attributes with
    | .map entries => addEntries limit? .empty entries
    | v => .error (.noPart v.typeName "items")

end PackageBuild.Telemetry
