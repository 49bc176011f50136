import PackageBuild.Record.Choice

/-!
# Record schemas

Every record of the library has a fixed list of fields, each with a name, the shape of its values
and, where it may be left out, a default. Records are written with their fields in this order and
without the fields that have their default.

Main results:

- `nodup_fieldNames`: no record has two fields of one name.
-/

namespace PackageBuild

/-- The records of the library. -/
inductive RecordType where
  | package
  | node
  | failure
  | result
  | row
  | line
  | classification
  | report
  deriving DecidableEq, Repr

/-- What the values of a field look like. -/
inductive Shape where
  | bool
  | int
  | text
  | choice (choice : Choice)
  | optional (shape : Shape)
  | record (type : RecordType)
  | sequence (item : Shape)
  | map (item : Shape)
  deriving DecidableEq, Repr

/-- The value of a field that is left out. -/
inductive Default where
  | emptyText
  | emptySequence
  | nothing
  | no
  deriving DecidableEq, Repr

/-- A field of a record. -/
structure Field where
  name : String
  shape : Shape
  /-- The value of a field that is left out; none for a required field. -/
  default? : Option Default := none
  deriving DecidableEq, Repr

namespace RecordType

/-- All records. -/
def all : List RecordType :=
  [package, node, failure, result, row, line, classification, report]

/-- The name of a record. -/
def name : RecordType → String
  | package => "VersionedPkg"
  | node => "PkgNode"
  | failure => "BuildFailure"
  | result => "BuildResult"
  | row => "SummaryRow"
  | line => "SummaryLine"
  | classification => "BuildClassification"
  | report => "BuildSummaryReport"

/-- The record of a name. -/
def ofName? (name : String) : Option RecordType := all.find? fun type => type.name == name

/-- The fields of a record in order. -/
def fields : RecordType → List Field
  | package =>
    [⟨"name", .text, none⟩, ⟨"version", .text, some .emptyText⟩,
     ⟨"condition", .text, some .emptyText⟩, ⟨"s_version", .text, some .emptyText⟩,
     ⟨"s_condition", .text, some .emptyText⟩]
  | node =>
    [⟨"node_id", .int, none⟩, ⟨"kind", .choice .kind, none⟩, ⟨"state", .choice .state, none⟩,
     ⟨"versioned_pkg", .record package, none⟩, ⟨"srpm_path", .text, none⟩,
     ⟨"rpm_path", .text, some .emptyText⟩, ⟨"architecture", .text, some .emptyText⟩]
  | failure =>
    [⟨"node", .record node, none⟩, ⟨"error", .text, none⟩, ⟨"log_file", .text, some .emptyText⟩]
  | result =>
    [⟨"node", .record node, none⟩, ⟨"error", .optional .text, some .nothing⟩,
     ⟨"log_file", .text, some .emptyText⟩, ⟨"built_files", .sequence .text, some .emptySequence⟩,
     ⟨"used_cache", .bool, some .no⟩, ⟨"skipped", .bool, some .no⟩,
     ⟨"was_delta", .bool, some .no⟩]
  | row =>
    [⟨"package", .text, none⟩, ⟨"state", .choice .outcome, none⟩,
     ⟨"blocker", .text, some .emptyText⟩]
  | line => [⟨"level", .int, none⟩, ⟨"text", .text, none⟩]
  | classification =>
    [⟨"outcomes", .map (.choice .outcome), none⟩, ⟨"nodes", .map (.record node), none⟩,
     ⟨"failures", .map (.record failure), none⟩,
     ⟨"unresolved", .sequence .text, some .emptySequence⟩]
  | report =>
    [⟨"classification", .record classification, none⟩, ⟨"blockers", .map .text, none⟩,
     ⟨"lines", .sequence (.record line), none⟩, ⟨"rows", .sequence (.record row), none⟩,
     ⟨"csv_path", .optional .text, some .nothing⟩, ⟨"csv_written", .bool, some .no⟩]

/-- The names of the fields in order. -/
def fieldNames (type : RecordType) : List String := type.fields.map Field.name

/-- No record has two fields of one name. -/
theorem nodup_fieldNames (type : RecordType) : type.fieldNames.Nodup := by
  cases type <;> decide

end RecordType

end PackageBuild
