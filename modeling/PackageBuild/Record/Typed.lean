import PackageBuild.Report.Entry

/-!
# Records as values

Every record of the library as a value of its schema, and back. Where a value may be anything, a
text is read from it as it stands in a message.

Main results:

- `VersionedPackage.ofValue?_toValue` and the like: a record is read back from its value.
-/

namespace PackageBuild

/-- The entries of a map under their keys. -/
def entriesOf? {α : Type} (item : Value → Option α) : Value → Option (List (Value.Key × α))
  | .map entries => entries.mapM fun (k, v) => (item v).map fun a => (.ofValue k, a)
  | _ => none

/-- A map as a value. -/
def OrderedMap.toValue {α : Type} (item : α → Value) (m : OrderedMap Value.Key α) : Value :=
  .map (m.entries.map fun (k, v) => (k.toValue, item v))

/-- A map from its keys to themselves. -/
def keysOf : Value → Value
  | .map entries => .map (entries.map fun (k, _) => (k, k))
  | v => v

/-- The map of a value. -/
def mapOf? {α : Type} (item : Value → Option α) (v : Value) : Option (OrderedMap Value.Key α) :=
  (entriesOf? item v).map .ofList

namespace VersionedPackage

/-- A versioned package as a value. -/
def toValue (p : VersionedPackage) : Value :=
  .record .package [p.name, p.version, p.condition, p.secondVersion, p.secondCondition]

/-- The versioned package of a value. -/
def ofValue? : Value → Option VersionedPackage
  | .record .package [name, version, condition, secondVersion, secondCondition] =>
    some ⟨name, version, condition, secondVersion, secondCondition⟩
  | _ => none

@[simp] theorem ofValue?_toValue (p : VersionedPackage) : ofValue? p.toValue = some p := rfl

end VersionedPackage

namespace Summary

/-- A row as a value. -/
def Row.toValue (r : Row) : Value :=
  .record .row [.text r.package, .member (.outcome r.outcome), .text r.blocker]

/-- The text of a value in a table; nothing has an empty one. -/
def cellText : Value → Except Value.Fault String
  | .null => .ok ""
  | v => v.plainText

/-- The row of a value, if the value is one, or why its cells have no text. -/
def Row.ofValue? : Value → Option (Except Value.Fault Row)
  | .record .row [package, .member (.outcome outcome), blocker] => some do
    return ⟨← cellText package, outcome, ← cellText blocker⟩
  | _ => none

@[simp] theorem Row.ofValue?_toValue (r : Row) : Row.ofValue? r.toValue = some (.ok r) := rfl

/-- The rows in front of the first value that is none, and what is wrong with that one. -/
def rowsOfValues : List Value → List Row × Option Value.Fault
  | [] => ([], none)
  | v :: rest =>
    match Row.ofValue? v with
    | some (.ok row) =>
      let (rows, fault?) := rowsOfValues rest
      (row :: rows, fault?)
    | some (.error fault) => ([], some fault)
    | none => ([], some (.noPart v.typeName "as_record"))

/-- A line as a value. -/
def Line.toValue (l : Line) : Value := .record .line [.int l.level, .text l.text]

/-- The line of a value; a level that is no integer makes none. -/
def Line.ofValue? : Value → Option Line
  | .record .line [level, text] => level.asInt?.map fun n => ⟨n, text.messageText⟩
  | _ => none

@[simp] theorem Line.ofValue?_toValue (l : Line) : Line.ofValue? l.toValue = some l := rfl

end Summary

/-- The outcome of a value. -/
def memberOutcome? : Value → Option Outcome
  | .member (.outcome o) => some o
  | _ => none

namespace Classification

/-- A classification as a value. -/
def toValue (c : Classification) : Value :=
  .record .classification
    [c.outcomes.toValue fun o => .member (.outcome o), c.nodes.toValue Node.toValue,
      c.failures.toValue Failure.toValue, .tuple (c.unresolved.map .text)]

/-- The classification of a value. Its units stand under the values that the outcomes name. -/
def ofValue? : Value → Option Classification
  | .record .classification [outcomes, nodes, failures, unresolved] => do
    let keyValues ← mapOf? some (keysOf outcomes)
    let outcomes ← mapOf? memberOutcome? outcomes
    let nodes ← mapOf? Node.ofValue? nodes
    let failures ← mapOf? Failure.ofValue? failures
    let unresolved ← unresolved.items.toOption
    return ⟨outcomes, nodes, failures, unresolved.map Value.messageText, keyValues⟩
  | _ => none

end Classification

namespace Report

/-- A report as a value. -/
def toValue (r : Report) : Value :=
  .record .report
    [r.classification.toValue, r.blockers.toValue .text,
      .tuple (r.lines.map Summary.Line.toValue), .tuple (r.rows.map Summary.Row.toValue),
      (r.tablePath?.map .text).getD .null, .bool r.tableWritten]

end Report

end PackageBuild
