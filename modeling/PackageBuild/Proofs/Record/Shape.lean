import PackageBuild.Package.Result
import PackageBuild.Value.Key

/-!
# Values of a shape

The parts of records are not checked when a record is made.  This module says when they have the
shapes that the schema of the record names, at every depth, and what a node with such parts can
always be asked.

Main results:

- Theorem `Value.hasShape_package_iff`: a package of this kind has texts and nothing else.
- Theorem `Node.typed_iff`: what the parts of a node of this kind are.
- Theorems `Node.Typed.idFault?_eq_none`, `unitFault?_eq_none`, `pathFault?_eq_none` and
  `packageFault?_eq_none`: such a node has a key, a build unit, a source archive with a name and a
  package with a text.
-/

namespace PackageBuild

/-! ## Shapes of values -/

mutual

/-- A value has a shape, and so has every value inside it. -/
inductive Value.HasShape : Shape → Value → Prop where
  | bool (b : Bool) : HasShape .bool (.bool b)
  | int (n : Int) : HasShape .int (.int n)
  | text (s : String) : HasShape .text (.text s)
  | member {choice : Choice} (m : Member) (h : m.choice = choice) :
      HasShape (.choice choice) (.member m)
  | nothing (shape : Shape) : HasShape (.optional shape) .null
  | present {shape : Shape} {v : Value} (h : HasShape shape v) : HasShape (.optional shape) v
  | record {type : RecordType} {values : List Value} (h : HasFields type.fields values) :
      HasShape (.record type) (.record type values)
  | sequence {item : Shape} {items : List Value} (h : ∀ v ∈ items, HasShape item v) :
      HasShape (.sequence item) (.tuple items)
  | map {item : Shape} {entries : List (String × Value)}
      (distinct : (entries.map Prod.fst).Nodup) (h : ∀ entry ∈ entries, HasShape item entry.2) :
      HasShape (.map item) (.map (entries.map fun entry => (.text entry.1, entry.2)))

/-- Values have the shapes of fields, one after another. -/
inductive Value.HasFields : List Field → List Value → Prop where
  | nil : HasFields [] []
  | cons {field : Field} {fields : List Field} {v : Value} {values : List Value}
      (h : HasShape field.shape v) (rest : HasFields fields values) :
      HasFields (field :: fields) (v :: values)

end

namespace Value

/-- The shape of truth values. -/
theorem hasShape_bool_iff {v : Value} : HasShape .bool v ↔ ∃ b, v = .bool b := by
  constructor
  · intro h
    cases h with
    | bool b => exact ⟨b, rfl⟩
  · rintro ⟨b, rfl⟩
    exact .bool b

/-- The shape of integers. -/
theorem hasShape_int_iff {v : Value} : HasShape .int v ↔ ∃ n, v = .int n := by
  constructor
  · intro h
    cases h with
    | int n => exact ⟨n, rfl⟩
  · rintro ⟨n, rfl⟩
    exact .int n

/-- The shape of texts. -/
theorem hasShape_text_iff {v : Value} : HasShape .text v ↔ ∃ s, v = .text s := by
  constructor
  · intro h
    cases h with
    | text s => exact ⟨s, rfl⟩
  · rintro ⟨s, rfl⟩
    exact .text s

/-- A record has its shape when its fields have theirs. -/
theorem hasShape_record_iff {type : RecordType} {values : List Value} :
    HasShape (.record type) (.record type values) ↔ HasFields type.fields values := by
  constructor
  · intro h
    cases h with
    | record h => exact h
  · exact .record

theorem hasFields_nil_iff : HasFields [] [] ↔ True := by
  constructor
  · intro _
    trivial
  · intro _
    exact .nil

/-- Fields have their shapes one by one. -/
theorem hasFields_cons_iff {field : Field} {fields : List Field} {v : Value}
    {values : List Value} :
    HasFields (field :: fields) (v :: values) ↔
      HasShape field.shape v ∧ HasFields fields values := by
  constructor
  · intro h
    cases h with
    | cons h hrest => exact ⟨h, hrest⟩
  · rintro ⟨h, hrest⟩
    exact .cons h hrest

/-- A package of its shape has five texts. -/
theorem hasShape_package_iff {v : Value} :
    HasShape (.record .package) v ↔
      ∃ name version condition secondVersion secondCondition : String,
        v = .record .package [.text name, .text version, .text condition, .text secondVersion,
          .text secondCondition] := by
  constructor
  · intro h
    cases h with
    | record h =>
      -- The five fields come one after another; each holds a text.
      obtain _ | ⟨hname, _ | ⟨hversion, _ | ⟨hcondition, _ | ⟨hsecondVersion,
        _ | ⟨hsecondCondition, _ | _⟩⟩⟩⟩⟩ := h
      obtain ⟨name, rfl⟩ := hasShape_text_iff.1 hname
      obtain ⟨version, rfl⟩ := hasShape_text_iff.1 hversion
      obtain ⟨condition, rfl⟩ := hasShape_text_iff.1 hcondition
      obtain ⟨secondVersion, rfl⟩ := hasShape_text_iff.1 hsecondVersion
      obtain ⟨secondCondition, rfl⟩ := hasShape_text_iff.1 hsecondCondition
      exact ⟨name, version, condition, secondVersion, secondCondition, rfl⟩
  · rintro ⟨name, version, condition, secondVersion, secondCondition, rfl⟩
    exact .record (.cons (.text name) (.cons (.text version) (.cons (.text condition)
      (.cons (.text secondVersion) (.cons (.text secondCondition) .nil)))))

end Value

/-! ## Packages and nodes of their shape -/

namespace VersionedPackage

/-- The words of a bound that is given by texts are texts. -/
theorem boundWords_texts (condition version : String) :
    ∃ texts : List String, boundWords (.text condition) (.text version) = texts.map .text := by
  unfold boundWords
  split
  · exact ⟨[], rfl⟩
  · split
    · exact ⟨["=", version], rfl⟩
    · exact ⟨[condition, version], rfl⟩

/-- A package that is given by texts has a display text. -/
theorem display_texts (name version condition secondVersion secondCondition : String) :
    ∃ s, display ⟨.text name, .text version, .text condition, .text secondVersion,
      .text secondCondition⟩ = .ok s := by
  obtain ⟨first, hfirst⟩ := boundWords_texts condition version
  obtain ⟨second, hsecond⟩ := boundWords_texts secondCondition secondVersion
  refine ⟨Text.joined " " (name :: first ++ second), display_of_texts ?_⟩
  rw [words, hfirst, hsecond]
  simp

end VersionedPackage

namespace Node

/-- The parts of a node have the shapes that the schema names. -/
def Typed (n : Node) : Prop := Value.HasShape (.record .node) n.toValue

/-- Two parts of a node have their shapes however it is made; the others must be checked. -/
theorem typed_iff {n : Node} :
    n.Typed ↔ (∃ k, n.id = .int k) ∧ Value.HasShape (.record .package) n.package ∧
      (∃ path, n.source = .text path) ∧ (∃ path, n.binaryPath = .text path) ∧
        ∃ machine, n.architecture = .text machine := by
  have hkind : Value.HasShape (.choice .kind) (.member (.kind n.kind)) := .member _ rfl
  have hstate : Value.HasShape (.choice .state) (.member (.state n.state)) := .member _ rfl
  simp only [Typed, toValue, Value.hasShape_record_iff, RecordType.fields,
    Value.hasFields_cons_iff, Value.hasFields_nil_iff, Value.hasShape_int_iff,
    Value.hasShape_text_iff, hkind, hstate, and_true, true_and]

/-- A node with a number, a name and a source archive, and else with empty texts. -/
theorem typed_plain (id : Int) (kind : Kind) (state : State) (name source : String) :
    Node.Typed ⟨.int id, kind, state,
      .record .package [.text name, .text "", .text "", .text "", .text ""], .text source, .text "",
      .text ""⟩ :=
  typed_iff.2 ⟨⟨id, rfl⟩, Value.hasShape_package_iff.2 ⟨_, _, _, _, _, rfl⟩, ⟨_, rfl⟩, ⟨_, rfl⟩,
    ⟨_, rfl⟩⟩

namespace Typed

variable {n : Node}

/-- The source archive is named by a text. -/
theorem source_eq (h : n.Typed) : n.source = .text n.sourcePath := by
  obtain ⟨path, hpath⟩ := (typed_iff.1 h).2.2.1
  rw [sourcePath, hpath]
  rfl

/-- The build unit of a node of its shape is its source path. -/
theorem buildUnit_eq (h : n.Typed) : n.buildUnit = .text n.sourcePath := by
  rw [buildUnit, h.source_eq, Value.Key.ofValue_text]

/-- Nodes of one unit are named by one file name. -/
theorem fileName_eq {m : Node} (hm : m.Typed) (hn : n.Typed) (h : m.buildUnit = n.buildUnit) :
    m.fileName = n.fileName := by
  rw [hm.buildUnit_eq, hn.buildUnit_eq, Value.Key.text.injEq] at h
  rw [fileName, fileName, h]

/-- The number of a node of its shape can be a key. -/
theorem idFault?_eq_none (h : n.Typed) : n.idFault? = none := by
  obtain ⟨k, hk⟩ := (typed_iff.1 h).1
  rw [idFault?, hk]
  rfl

/-- The source path of a node of its shape can be a key. -/
theorem unitFault?_eq_none (h : n.Typed) : n.unitFault? = none := by
  rw [unitFault?, h.source_eq, Value.Key.fault?_text]

/-- The source archive of a node of its shape can be named. -/
theorem pathFault?_eq_none (h : n.Typed) : n.pathFault? = none := by
  rw [pathFault?, h.source_eq]
  rfl

/-- The package of a node of its shape has a text. -/
theorem packageFault?_eq_none (h : n.Typed) : n.packageFault? = none := by
  obtain ⟨name, version, condition, secondVersion, secondCondition, hpackage⟩ :=
    Value.hasShape_package_iff.1 (typed_iff.1 h).2.1
  obtain ⟨s, hs⟩ :=
    VersionedPackage.display_texts name version condition secondVersion secondCondition
  have htext : n.packageText = .ok s := by
    rw [packageText, hpackage]
    exact hs
  rw [packageFault?, htext]

end Typed

end Node

/-! ## Failures and results of their shape -/

/-- The parts of a failure have the shapes that the schema names. -/
def Failure.Typed (f : Failure) : Prop := Value.HasShape (.record .failure) f.toValue

/-- The parts of a result have the shapes that the schema names. -/
def Result.Typed (r : Result) : Prop := Value.HasShape (.record .result) r.toValue

/-- The shape of a failure, part by part. -/
theorem Failure.typed_iff {f : Failure} :
    f.Typed ↔ f.node.Typed ∧ (∃ error, f.error = .text error) ∧ ∃ path, f.logFile = .text path := by
  simp only [Failure.Typed, Node.Typed, toValue, Value.hasShape_record_iff, RecordType.fields,
    Value.hasFields_cons_iff, Value.hasFields_nil_iff, Value.hasShape_text_iff, and_true]

/-- The shape of a result, part by part. -/
theorem Result.typed_iff {r : Result} :
    r.Typed ↔ r.node.Typed ∧ Value.HasShape (.optional .text) (r.error?.getD .null) ∧
      (∃ path, r.logFile = .text path) ∧ Value.HasShape (.sequence .text) r.builtFiles ∧
        ∃ delta, r.wasDelta = .bool delta := by
  have hbool (b : Bool) : Value.HasShape .bool (.bool b) := .bool b
  simp only [Result.Typed, Node.Typed, toValue, Value.hasShape_record_iff, RecordType.fields,
    Value.hasFields_cons_iff, Value.hasFields_nil_iff, Value.hasShape_text_iff, hbool, true_and,
    and_true, Value.hasShape_bool_iff]

end PackageBuild
