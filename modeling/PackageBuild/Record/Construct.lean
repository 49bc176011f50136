import PackageBuild.Value.Display

/-!
# Building records

A record is built from named arguments. Its fields are closed: no argument beyond them is taken, and
every field without a default is needed. Records do not change.
-/

namespace PackageBuild

/-- Why a record is not built or not changed. -/
inductive Record.Refusal where
  /-- A value, as it is shown, is no member of a choice. -/
  | notMember (choice : Choice) (shown : String)
  | unexpected (name : String)
  | missing (name : String)
  | immutable (type : RecordType)
  deriving DecidableEq, Repr

namespace Record

/-- The text of a refusal. -/
def Refusal.message : Refusal → String
  | notMember choice shown => shown ++ " is not a valid " ++ choice.name
  | unexpected name => "Unexpected keyword argument '" ++ name ++ "'"
  | missing name => "Missing required argument '" ++ name ++ "'"
  | immutable type => "immutable type: '" ++ type.name ++ "'"

/-- The member of a choice that a value writes. -/
def choose (choice : Choice) (v : Value) : Except Refusal Member :=
  match v.asText?.bind choice.member? with
  | some m => .ok m
  | none => .error (.notMember choice v.display)

/-- The argument of a name; of several the last one. -/
def argument? (name : String) (arguments : List (String × Value)) : Option Value :=
  (arguments.reverse.find? fun argument => argument.1 == name).map Prod.snd

/-- The value of a field, from the arguments or by default; `none` when it is missing. -/
def fieldValue? (arguments : List (String × Value)) (field : Field) : Option Value :=
  (argument? field.name arguments).or (field.default?.map Default.toValue)

/-- The values of fields in order, or the first field without one. -/
def fieldValues (arguments : List (String × Value)) : List Field → Except String (List Value)
  | [] => .ok []
  | field :: rest =>
    match fieldValue? arguments field with
    | none => .error field.name
    | some v => (fieldValues arguments rest).map (v :: ·)

/-- The record with the given arguments. -/
def construct (type : RecordType) (arguments : List (String × Value)) : Except Refusal Value :=
  match arguments.find? fun argument => !type.fieldNames.contains argument.1 with
  | some argument => .error (.unexpected argument.1)
  | none =>
    match fieldValues arguments type.fields with
    | .ok values => .ok (.record type values)
    | .error name => .error (.missing name)

/-- A record with a field changed: there is none. -/
def assign (type : RecordType) (_field : String) (_v : Value) : Except Refusal Value :=
  .error (.immutable type)

end Record

end PackageBuild
