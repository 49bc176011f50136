import PackageBuild.Summary.Csv

/-!
# Reading comma-separated tables

A table is read character by character. Commas end fields and line breaks end records, unless they
stand between double quotes; there a doubled quote is a quote. Readers differ in what they take for
the end of a record: a line feed only, or any line break.

Main results:

- `read_nil`: behind the end of a record there is no record.
- `read_special_of_quoted`: between quotes, commas and line breaks are characters like others.
-/

namespace PackageBuild.Summary.Csv

/-- What a reader takes for the end of a record. -/
inductive RecordEnd where
  | lineFeed
  /-- A line feed, a carriage return, or the one behind the other. -/
  | anyBreak
  deriving DecidableEq, Repr

/-- Whether a character ends a record. -/
def RecordEnd.accepts : RecordEnd → Char → Bool
  | lineFeed, c => c == '\n'
  | anyBreak, c => c == '\n' || c == '\r'

/-- Where a reader stands. -/
inductive ReaderState where
  /-- In front of a record; maybe right behind a carriage return that ended one. -/
  | record (afterReturn : Bool)
  | field
  | plain
  | quoted
  /-- Behind a quote that stands between quotes or ends them. -/
  | quote
  deriving DecidableEq, Repr

/-- What a reader does with a character. -/
inductive Action where
  | add
  | skip
  | closeField
  | closeRecord
  | closeBlank
  deriving DecidableEq, Repr

/-- What a reader does with a character outside of quotes, and where it stands then. -/
def outside (e : RecordEnd) (c : Char) : Action × ReaderState :=
  if c = ',' then (.closeField, .field)
  else if e.accepts c then (.closeRecord, .record (c == '\r'))
  else (.add, .plain)

/-- What a reader does with a character in front of a field, and where it stands then. -/
def atField (e : RecordEnd) (c : Char) : Action × ReaderState :=
  if c = '\x22' then (.skip, .quoted) else outside e c

/-- What a reader does with a character, and where it stands then. -/
def act (e : RecordEnd) : ReaderState → Char → Action × ReaderState
  | .record afterReturn, c =>
    if afterReturn && c == '\n' then (.skip, .record false)
    else if e.accepts c then (.closeBlank, .record (c == '\r'))
    else atField e c
  | .field, c => atField e c
  | .plain, c => outside e c
  | .quoted, c => if c = '\x22' then (.skip, .quote) else (.add, .quoted)
  | .quote, c => if c = '\x22' then (.add, .quoted) else outside e c

/-- A table of which only the first field is not complete gets a character in front. -/
def addChar (c : Char) : List (List (List Char)) → List (List (List Char))
  | (field :: fields) :: records => ((c :: field) :: fields) :: records
  | records => records

/-- The field in front of a table was complete. -/
def addField : List (List (List Char)) → List (List (List Char))
  | fields :: records => ([] :: fields) :: records
  | records => records

/-- The records in the rest of a text, the first from where the reader stands. -/
def read (e : RecordEnd) : ReaderState → List Char → List (List (List Char))
  | .record _, [] => []
  | .field, [] | .plain, [] | .quoted, [] | .quote, [] => [[[]]]
  | place, c :: rest =>
    let (action, next) := act e place c
    let later := read e next rest
    match action with
    | .add => addChar c later
    | .skip => later
    | .closeField => addField later
    | .closeRecord => [[]] :: later
    | .closeBlank => [] :: later
termination_by structural _ s => s

/-- The records of a text. -/
def decodeTable (e : RecordEnd) (s : List Char) : List (List (List Char)) :=
  read e (.record false) s

/-- The records of a text, with texts as their fields. -/
def records (e : RecordEnd) (text : String) : List (List String) :=
  (decodeTable e text.toList).map fun fields => fields.map String.ofList

/-- A field may have so many characters. -/
def fieldLimit : Nat := 131072

/-- The records of a text for a reader that ends them at any line break. It refuses a text with a
field beyond the limit. -/
def standard? (text : String) : Option (List (List String)) :=
  let found := records .anyBreak text
  if ∀ fields ∈ found, ∀ field ∈ fields, field.length ≤ fieldLimit then some found else none

@[simp] theorem read_nil (e : RecordEnd) (afterReturn : Bool) :
    read e (.record afterReturn) [] = [] := rfl

/-- Between quotes, commas and line breaks are characters like others. -/
theorem read_special_of_quoted (e : RecordEnd) {c : Char} (h : c ≠ '\x22') (rest : List Char) :
    read e .quoted (c :: rest) = addChar c (read e .quoted rest) := by
  simp [read, act, h]

end PackageBuild.Summary.Csv
