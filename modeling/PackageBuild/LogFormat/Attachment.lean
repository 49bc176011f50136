import PackageBuild.LogFormat.Record
import PackageBuild.Value.Items

/-!
# What stands below the line of a record

Below the line of a record stand the text of its exception and the places that led to it, each on
lines of its own. An exception is noted as three items, the last of which is its trace. None of the
values of this library is an exception or a trace, so of such a record the text is known only where
nothing at all is noted.
-/

namespace PackageBuild.LogFormat

/-- Why nothing can be put below a line. -/
inductive Attachment.Fault where
  | noItems (typeName : String)
  | outOfRange (typeName : String)
  | noKey (place : Nat)
  /-- A value of this kind is no part of an exception. -/
  | noPart (typeName part : String)
  | notText (typeName : String)
  deriving DecidableEq, Repr

namespace Attachment

/-- The text of a fault. -/
def Fault.message : Fault → String
  | noItems typeName => "'" ++ typeName ++ "' object is not subscriptable"
  | outOfRange typeName =>
    match typeName with
    | "bytes" => "index out of range"
    | "str" => "string index out of range"
    | name => name ++ " index out of range"
  | noKey place => Text.naturalText place
  | noPart typeName part => "'" ++ typeName ++ "' object has no attribute '" ++ part ++ "'"
  | notText typeName => "can only concatenate str (not \"" ++ typeName ++ "\") to str"

/-- The item of a value at a place. -/
def itemAt (place : Nat) (v : Value) : Except Fault Value :=
  let within (typeName : String) (items : List Value) : Except Fault Value :=
    match items[place]? with
    | some item => .ok item
    | none => .error (.outOfRange typeName)
  match v with
  | .list items | .tuple items => within v.typeName items
  | .text s => within "str" (Value.characters s)
  | .member m => within "str" (Value.characters m.text)
  | .bytes b => within "bytes" (b.map fun byte => .int byte.toNat)
  | .map entries =>
    match entries.find? fun entry => entry.1.same (.int place) with
    | some entry => .ok entry.2
    | none => .error (.noKey place)
  | v => .error (.noItems v.typeName)

/-- The text of an exception that is noted on a record. -/
def exceptionText (v : Value) : Except Fault Value := do
  let trace ← itemAt 2 v
  let _ ← itemAt 0 v
  let exception ← itemAt 1 v
  match trace, exception with
  | .null, .null => return .text "NoneType: None"
  | .null, exception => .error (.noPart exception.typeName "__suppress_context__")
  | trace, _ => .error (.noPart trace.typeName "tb_frame")

/-- A line with a text on lines of its own below it. -/
def below (line text : String) : String :=
  (if line.toList.getLast? = some '\n' then line else line ++ "\n") ++ text

/-- A line with a value below it, if there is one. -/
def belowAny (line : String) (v : Value) : Except Fault String :=
  if v.isEmpty then .ok line
  else
    match v.asText? with
    | some text => .ok (below line text)
    | none => .error (.notText v.typeName)

/-- The text of the exception of a record: the one that is noted, or that of the exception. -/
def textOf (r : Record) : Except Fault Value :=
  let exception := r.field exceptionField
  let noted := r.field exceptionTextField
  if exception.isTrue && noted.isEmpty then exceptionText exception else .ok noted

/-- A line of a record with all that stands below it. -/
def attach (r : Record) (line : String) : Except Fault String := do
  let line ← belowAny line (← textOf r)
  belowAny line (r.field stackField)

end Attachment

end PackageBuild.LogFormat
