import PackageBuild.Log
import PackageBuild.OrderedMap
import PackageBuild.Template.Fill
import PackageBuild.Text.Hex
import PackageBuild.Value.Key

/-!
# Log records

A log record has named fields, and a time that is made a text when a line asks for it. A filter
notes the identifiers of the current span on it, in hexadecimal digits, or that there is none. The
message of a record is its text with its arguments filled in.
-/

namespace PackageBuild.LogFormat

/-- The identifiers of a span. -/
structure SpanContext where
  trace : Nat
  span : Nat
  deriving DecidableEq, Repr

/-- An identifier of zero, or one that is too long, is not valid. -/
def SpanContext.isValid (c : SpanContext) : Bool :=
  0 < c.trace && c.trace < Nat.pow 2 128 && 0 < c.span && c.span < Nat.pow 2 64

/-- The fields of a record under their names. -/
abbrev Fields := OrderedMap String Value

/-- The name of the field with the trace identifier. -/
def traceField : String := "trace_id"

/-- The name of the field with the span identifier. -/
def spanField : String := "span_id"

/-- The name of the field with the message. -/
def messageField : String := "message"

/-- The name of the field with the text of the message. -/
def textField : String := "msg"

/-- The name of the field with the arguments of the message. -/
def argumentsField : String := "args"

/-- The name of the field with an exception. -/
def exceptionField : String := "exc_info"

/-- The name of the field with the text of an exception. -/
def exceptionTextField : String := "exc_text"

/-- The name of the field with the places that led to the record. -/
def stackField : String := "stack_info"

/-- The name of the field with the text of the time. -/
def timeField : String := "asctime"

/-- The levels with a name. -/
def namedLevels : List (Int × String) :=
  [(Log.critical, "CRITICAL"), (Log.error, "ERROR"), (Log.warning, "WARNING"), (Log.info, "INFO"),
   (Log.debug, "DEBUG"), (0, "NOTSET"), (Log.critical, "FATAL"), (Log.warning, "WARN")]

/-- The name of a level, or the level of a name. -/
def levelName (level : Value) : Value :=
  match namedLevels.find? fun named => (Value.int named.1).same level with
  | some named => .text named.2
  | none =>
    match namedLevels.find? fun named => level.asText? == some named.2 with
    | some named => .int named.1
    | none => .text ("Level " ++ level.messageText)

/-- A message before its arguments are filled in. -/
structure Message where
  text : Value
  arguments : List Value := []

/-- The arguments as one value: a map that stands alone and is not empty gives its fields, and all
others stand in their order. -/
def Message.supplied (m : Message) : Value :=
  match m.arguments with
  | [.map (entry :: entries)] => .map (entry :: entries)
  | arguments => .tuple arguments

/-- A log record. -/
structure Record where
  fields : Fields
  /-- The text of its time under a date format, where there is one: clocks and calendars are not
  modelled here. -/
  time : Value → Option String := fun _ => none

namespace Record

/-- The record of a message under a name at a level, with more fields put on it. -/
def of (name level : Value) (message : Message) (more : List (String × Value)) : Record :=
  { fields := .ofList
      ([("name", name), (textField, message.text), (argumentsField, message.supplied),
        ("levelname", levelName level), ("levelno", level), (exceptionField, .null),
        (exceptionTextField, .null), (stackField, .null), ("funcName", .null),
        ("threadName", .text "MainThread"), ("processName", .text "MainProcess")] ++ more) }

/-- The record of a message at a level that may be anything: one that cannot be looked up makes no
record. -/
def ofAny (name level : Value) (message : Message) (more : List (String × Value)) :
    Except Value.Fault Record :=
  match Value.Key.fault? level with
  | some fault => .error fault
  | none => .ok (of name level message more)

/-- A field of a record; one that is not there is nothing. -/
def field (r : Record) (name : String) : Value := (r.fields.find? name).getD .null

/-- The message of a record: its text, with the arguments filled in if there are any. -/
def message (r : Record) : Except Template.Fault String := do
  let text ← (r.field textField).plainText.mapError .noText
  let supplied := r.field argumentsField
  if supplied.isTrue then (Template.ofChars text.toList).fill supplied else return text

end Record

/-- The text of an identifier in so many digits, or nothing. -/
def identifier (valid : Bool) (width n : Nat) : Value :=
  if valid then .text (String.ofList (Text.hexFixed width n)) else .null

/-- The fields with the identifiers of the current span noted on them. -/
def noteSpan (context? : Option SpanContext) (fields : Fields) : Fields :=
  match context? with
  | some c =>
    (fields.insert traceField (identifier c.isValid 32 c.trace)).insert spanField
      (identifier c.isValid 16 c.span)
  | none => (fields.insert traceField .null).insert spanField .null

/-- The record with the identifiers of the current span noted on it. -/
def Record.noted (context? : Option SpanContext) (r : Record) : Record :=
  { r with fields := noteSpan context? r.fields }

/-- The fields, with nothing for identifiers that are not noted on them. -/
def withDefaults (fields : Fields) : Fields :=
  (fields.insertNew traceField .null).insertNew spanField .null

end PackageBuild.LogFormat
