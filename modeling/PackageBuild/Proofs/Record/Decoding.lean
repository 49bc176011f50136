import Mathlib.Data.List.Nodup
import PackageBuild.Record.Decode

/-!
# Decoding part by part

A document is decoded when its parts are.  The fields of a record may stand in any order, since each
is found by its name, and those that are left out have their defaults.

Main results:

- Theorem `decode_optional`: what a shape takes, the optional shape takes as well.
- Theorems `decode_array`, `decode_map` and `decode_record`: documents with others inside.
- Theorem `fieldValue?_of_mem`: a field has the value that stands under its name.
-/

namespace PackageBuild.Record

open Json

variable {γ : Type} {shape : Shape} {places : List Place}

/-! ## Single documents -/

/-- A document that is decoded is decoded also where it is optional. -/
theorem decodeAtom_optional {d : Document} {v : Value} (h : decodeAtom shape places d = .ok v) :
    decodeAtom (.optional shape) places d = .ok v := by
  unfold decodeAtom at h ⊢
  rw [present]
  -- Only nothing is taken for another reason; all that is refused is no case.
  split at h
  case h_7 =>
    split at h
    · exact h
    · contradiction
  all_goals
    first
    | contradiction
    | simp_all

/-- What a shape takes, the optional shape takes as well. -/
theorem decode_optional {d : Document} {v : Value} (h : decode shape places d = .ok v) :
    decode (.optional shape) places d = .ok v := by
  cases d with
  | array items fault? =>
    rw [decode] at h ⊢
    rw [present]
    split at h
    · exact h
    · contradiction
  | object entries fault? =>
    rw [decode] at h ⊢
    rw [present]
    split at h
    · exact h
    · exact h
    · contradiction
  | _ =>
    rw [decode] at h ⊢
    · exact decodeAtom_optional h
    all_goals simp

/-- An optional shape takes nothing. -/
theorem decode_null (shape : Shape) (places : List Place) :
    decode (.optional shape) places .null = .ok .null := by
  have hatom : decode (.optional shape) places .null =
      decodeAtom (.optional shape) places .null := by
    rw [decode] <;> simp
  rw [hatom, decodeAtom]
  exact if_pos rfl

/-- A member of a choice is decoded from its written form. -/
theorem decode_member (m : Member) (places : List Place) :
    decode (.choice m.choice) places (.text m.text) = .ok (.member m) := by
  have hatom : decode (.choice m.choice) places (.text m.text) =
      decodeAtom (.choice m.choice) places (.text m.text) := rfl
  rw [hatom]
  unfold decodeAtom
  simp only [present, Choice.member?_text]

/-! ## Arrays and maps -/

/-- Items are decoded one by one. -/
theorem decodeItems_map {documentOf : γ → Document} {valueOf : γ → Value} {items : List γ}
    (h : ∀ item ∈ items, ∀ places, decode shape places (documentOf item) = .ok (valueOf item))
    (index : Nat) :
    decodeItems shape places index (items.map documentOf) = .ok (items.map valueOf) := by
  induction items generalizing index with
  | nil => rfl
  | cons item rest ih =>
    rw [List.map_cons, decodeItems, h item List.mem_cons_self,
      ih fun item hitem => h item (List.mem_cons_of_mem _ hitem)]
    rfl

/-- An array is decoded item by item. -/
theorem decode_array {documentOf : γ → Document} {valueOf : γ → Value} {items : List γ}
    (h : ∀ item ∈ items, ∀ places, decode shape places (documentOf item) = .ok (valueOf item)) :
    decode (.sequence shape) places (.array (items.map documentOf) none) =
      .ok (.tuple (items.map valueOf)) := by
  rw [decode]
  simp only [present, decodeItems_map h, bind, Except.bind, unlessFault]

/-- Entries are decoded one by one. -/
theorem decodeEntries_map {keyOf : γ → String} {documentOf : γ → Document} {valueOf : γ → Value}
    {items : List γ}
    (h : ∀ item ∈ items, ∀ places, decode shape places (documentOf item) = .ok (valueOf item)) :
    decodeEntries shape places (items.map fun item => (keyOf item, documentOf item)) =
      .ok (items.map fun item => (.text (keyOf item), valueOf item)) := by
  induction items with
  | nil => rfl
  | cons item rest ih =>
    rw [List.map_cons, decodeEntries, h item List.mem_cons_self,
      ih fun item hitem => h item (List.mem_cons_of_mem _ hitem)]
    rfl

/-- An object is decoded entry by entry as a map. -/
theorem decode_map {keyOf : γ → String} {documentOf : γ → Document} {valueOf : γ → Value}
    {items : List γ}
    (h : ∀ item ∈ items, ∀ places, decode shape places (documentOf item) = .ok (valueOf item)) :
    decode (.map shape) places
      (.object (items.map fun item => (keyOf item, documentOf item)) none) =
      .ok (.map (Value.ofEntries (items.map fun item => (.text (keyOf item), valueOf item)))) := by
  rw [decode]
  simp only [present, decodeEntries_map h, bind, Except.bind, unlessFault]

/-! ## Records -/

/-- Among items with different keys an item is found by its key. -/
theorem find?_eq_some_of_mem {keyOf : γ → String} {items : List γ}
    (hnodup : (items.map keyOf).Nodup) {item : γ} (h : item ∈ items) :
    (items.find? fun other => keyOf other == keyOf item) = some item := by
  have hfound : (items.find? fun other => keyOf other == keyOf item).isSome = true :=
    List.find?_isSome.2 ⟨item, h, beq_self_eq_true _⟩
  obtain ⟨other, hother⟩ := Option.isSome_iff_exists.1 hfound
  have hkey : keyOf other = keyOf item := by
    simpa using List.find?_some hother
  rw [hother, List.inj_on_of_nodup_map hnodup (List.mem_of_find?_eq_some hother) h hkey]

section Records

variable {type : RecordType} {fieldOf : γ → Field} {documentOf : γ → Document} {valueOf : γ → Value}
  {items : List γ}

/-- A field is found by its name. -/
theorem find?_field {field : Field} (h : field ∈ type.fields) :
    (type.fields.find? fun other => other.name == field.name) = some field :=
  find?_eq_some_of_mem type.nodup_fieldNames h

/-- The fields of a record are decoded one by one. -/
theorem decodeFields_map (hfields : ∀ item ∈ items, fieldOf item ∈ type.fields)
    (h : ∀ item ∈ items, ∀ places,
      decode (fieldOf item).shape places (documentOf item) = .ok (valueOf item)) :
    decodeFields type places (items.map fun item => ((fieldOf item).name, documentOf item)) =
      .ok (items.map fun item => ((fieldOf item).name, valueOf item)) := by
  induction items with
  | nil => rfl
  | cons item rest ih =>
    rw [List.map_cons, decodeFields, find?_field (hfields item List.mem_cons_self)]
    simp only [h item List.mem_cons_self,
      ih (fun item hitem => hfields item (List.mem_cons_of_mem _ hitem))
        fun item hitem => h item (List.mem_cons_of_mem _ hitem)]
    rfl

/-- A field has the value that stands under its name. -/
theorem fieldValue?_of_mem {arguments : List (String × Value)} {field : Field} {v : Value}
    (hnodup : (arguments.map Prod.fst).Nodup) (h : (field.name, v) ∈ arguments) :
    fieldValue? arguments field = some v := by
  have hreverse : (arguments.reverse.map Prod.fst).Nodup := by
    rw [List.map_reverse]
    exact List.nodup_reverse.2 hnodup
  have hfound : (arguments.reverse.find? fun argument => argument.1 == field.name) =
      some (field.name, v) :=
    find?_eq_some_of_mem hreverse (List.mem_reverse.2 h)
  rw [fieldValue?, argument?, hfound]
  rfl

/-- A field whose name nothing stands under has its default. -/
theorem fieldValue?_of_not_mem {arguments : List (String × Value)} {field : Field}
    (h : field.name ∉ arguments.map Prod.fst) :
    fieldValue? arguments field = field.default?.map Default.toValue := by
  have hnone : (arguments.reverse.find? fun argument => argument.1 == field.name) = none := by
    rw [List.find?_eq_none]
    intro argument hargument heq
    rw [beq_iff_eq] at heq
    exact h (heq ▸ List.mem_map_of_mem (List.mem_reverse.1 hargument))
  rw [fieldValue?, argument?, hnone]
  rfl

/-- The values of fields are had one by one. -/
theorem fieldValues_map {arguments : List (String × Value)}
    (h : ∀ item ∈ items, fieldValue? arguments (fieldOf item) = some (valueOf item)) :
    fieldValues arguments (items.map fieldOf) = .ok (items.map valueOf) := by
  induction items with
  | nil => rfl
  | cons item rest ih =>
    rw [List.map_cons, fieldValues, h item List.mem_cons_self,
      ih fun item hitem => h item (List.mem_cons_of_mem _ hitem)]
    rfl

/-- A record is decoded when its fields are and when all of them have values. -/
theorem decode_record {values : List Value} (hfields : ∀ item ∈ items, fieldOf item ∈ type.fields)
    (h : ∀ item ∈ items, ∀ places,
      decode (fieldOf item).shape places (documentOf item) = .ok (valueOf item))
    (hvalues : fieldValues (items.map fun item => ((fieldOf item).name, valueOf item)) type.fields =
      .ok values) :
    decode (.record type) places
        (.object (items.map fun item => ((fieldOf item).name, documentOf item)) none) =
      .ok (.record type values) := by
  rw [decode]
  simp only [present, decodeFields_map hfields h, bind, Except.bind, unlessFault, assemble, hvalues]

end Records

end PackageBuild.Record
