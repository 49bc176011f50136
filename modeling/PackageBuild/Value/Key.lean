import PackageBuild.Value.Display
import PackageBuild.Value.Equality

/-!
# Keys

What a map or a set knows a value by. Equal values have one key: numbers that are whole are known by
their integer, whatever their kind, and a member of a choice by its written form. All other values
are known by the way they are shown. A collection that can change is no key.

Main results:

- `ofValue_text` and `ofValue_int`: the keys of texts and of integers.
- `fault?_text`: a text can always be a key.
-/

namespace PackageBuild.Value

/-- What a map knows a value by. -/
inductive Key where
  | number (n : Int)
  | text (s : String)
  | other (shown : String)
  deriving DecidableEq, Repr

/-- The integer that a value is equal to, if there is one. -/
def whole? : Value → Option Int
  | float x => x.whole?
  | v => v.asInt?

namespace Key

instance : Inhabited Key := ⟨text ""⟩

/-- The key of a value. -/
def ofValue (v : Value) : Key :=
  match v.asText?, v.whole? with
  | some s, _ => text s
  | none, some n => number n
  | none, none => other v.display

/-- Why a value cannot be a key, if it cannot. -/
def fault? (v : Value) : Option Fault := (notHashable? v).map .notHashable

/-- A key as a value. -/
def toValue : Key → Value
  | number n => .int n
  | text s | other s => .text s

/-- A key as a message shows it. -/
def messageText (k : Key) : String := k.toValue.messageText

/-- A key as it is shown among others. -/
def display : Key → String
  | other s => s
  | k => k.toValue.display

@[simp] theorem ofValue_text (s : String) : ofValue (.text s) = text s := rfl

@[simp] theorem ofValue_int (n : Int) : ofValue (.int n) = number n := rfl

@[simp] theorem fault?_text (s : String) : fault? (.text s) = none := rfl

end Key

end PackageBuild.Value
