import PackageBuild.LogFormat.Attachment

/-!
# Formatters

A formatter is a template that names at least one field, with a date format for the times that it
asks for.
-/

namespace PackageBuild.LogFormat

/-- The template for lines with the identifiers of the current span. -/
def traceTemplate : String :=
  "%(levelname)s [trace_id=%(trace_id)s span_id=%(span_id)s] %(message)s"

/-- The template for lines with the message alone. -/
def messageTemplate : String := "%(message)s"

/-- Why a record is not formatted. -/
inductive Fault where
  | namesNoField (text : String)
  | unfilled (fault : Template.Fault)
  | noField (name : String)
  /-- A value of this kind is given as a template and is none. -/
  | noTemplate (typeName : String)
  | unattached (fault : Attachment.Fault)
  deriving DecidableEq, Repr

/-- The text of a fault. -/
def Fault.message : Fault → String
  | namesNoField text => "Invalid format '" ++ text ++ "' for '%' style"
  | unfilled fault => fault.message
  | unattached fault => fault.message
  | noTemplate typeName =>
    if typeName = "bytes" then "cannot use a string pattern on a bytes-like object"
    else "expected string or bytes-like object, got '" ++ typeName ++ "'"
  | noField name => "Formatting field not found in record: " ++ Text.quoted name

/-- A template that names at least one field. -/
structure Formatter where
  template : Template
  /-- The template mentions the time of a record. -/
  usesTime : Bool := false
  /-- How times are written; nothing stands for the usual way. -/
  dateFormat : Value := .null
  deriving Repr

namespace Formatter

/-- Whether a text mentions the time of a record. -/
def mentionsTime : List Char → Bool
  | [] => false
  | c :: rest => ("%(" ++ timeField ++ ")").toList.isPrefixOf (c :: rest) || mentionsTime rest

/-- The formatter of a text. -/
def ofText? (text : String) (dateFormat : Value := .null) : Except Fault Formatter :=
  if Template.namesField text.toList then
    .ok ⟨.ofChars text.toList, mentionsTime text.toList, dateFormat⟩
  else .error (.namesNoField text)

/-- The formatter of a value, given the template that an empty value stands for. -/
def ofValue? (standIn : String) (v : Value) (dateFormat : Value := .null) :
    Except Fault Formatter :=
  if v.isEmpty then ofText? standIn dateFormat
  else match v.asText? with
    | some text => ofText? text dateFormat
    | none => .error (.noTemplate v.typeName)

/-- The formatter of a value that may be missing, which stands for the one with identifiers; an
empty value stands for the message alone. -/
def ofGiven? : Option Value → Except Fault Formatter
  | none => ofText? traceTemplate
  | some v => ofValue? messageTemplate v

/-- The fields of a record as a value. -/
def fieldsValue (fields : Fields) : Value :=
  .map (fields.entries.map fun (name, v) => (.text name, v))

/-- The fields with the text of the time, where the template asks for it and there is one. -/
def timed (f : Formatter) (r : Record) (fields : Fields) : Fields :=
  if f.usesTime then
    match r.time f.dateFormat with
    | some text => fields.insert timeField (.text text)
    | none => fields
  else fields

/-- The line of a record with a message. -/
def line (f : Formatter) (r : Record) (message : String) : Except Fault String :=
  match f.template.fill (fieldsValue
      (f.timed r ((withDefaults r.fields).insert messageField (.text message)))) with
  | .ok line => .ok line
  | .error (.noField name) => .error (.noField name)
  | .error fault => .error (.unfilled fault)

/-- A record as a line, with what stands below it. -/
def format (f : Formatter) (r : Record) : Except Fault String := do
  let message ← r.message.mapError .unfilled
  let line ← f.line r message
  (Attachment.attach r line).mapError .unattached

end Formatter

end PackageBuild.LogFormat
