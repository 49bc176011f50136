import PackageBuild.Proofs.OrderedMap
import PackageBuild.Proofs.Telemetry.Stage

/-!
# Normalised attributes

A map is normalised entry by entry: entries without a value are left out, and of entries whose keys
have one text the last one counts.  What comes out is safe for a span, and a length limit cuts the
texts of what comes out without one.

Main results:

- Theorem `normalise_map`: a map is normalised entry by entry.
- Theorem `normalise_eq_shortened`: a length limit cuts the texts and changes nothing else.
- Theorem `normalise_safe`: what the attributes of a map are, in which order, and how they are cut.
-/

namespace PackageBuild.Telemetry

/-! ## Entry by entry -/

/-- The entries that have a value. -/
def presentEntries (entries : List (Value × Value)) : List (Value × Value) :=
  entries.filter fun entry => isPresent entry.2

/-- An entry as an attribute under the text of its key. -/
def namedAttribute (limit? : Option Int) (entry : Value × Value) :
    Except Value.Fault (String × Attribute) := do
  let key ← entry.1.plainText
  let value ← ofValue limit? entry.2
  return (key, value)

/-- Entries are added when all that have a value can be named. -/
theorem addEntries_eq (limit? : Option Int) (before : Attributes) (entries : List (Value × Value)) :
    addEntries limit? before entries = ((presentEntries entries).mapM (namedAttribute limit?)).map
      (List.foldl (fun m entry => m.insert entry.1 entry.2) before) := by
  induction entries generalizing before with
  | nil => rfl
  | cons entry rest ih =>
    obtain ⟨k, v⟩ := entry
    rw [addEntries, presentEntries, List.filter_cons]
    by_cases hpresent : isPresent v = true
    · rw [if_pos hpresent, if_pos hpresent, List.mapM_cons, namedAttribute]
      cases k.plainText with
      | error fault => rfl
      | ok key =>
        cases ofValue limit? v with
        | error fault => rfl
        | ok value =>
          refine (ih (before.insert key value)).trans ?_
          rw [presentEntries]
          cases (rest.filter fun entry => isPresent entry.2).mapM (namedAttribute limit?) with
          | error fault => rfl
          | ok attributes => rfl
    · rw [if_neg hpresent, if_neg hpresent]
      exact ih before

/-- A map is normalised entry by entry. -/
theorem normalise_map (limit? : Option Int) (entries : List (Value × Value)) :
    normalise limit? (.map entries) =
      ((presentEntries entries).mapM (namedAttribute limit?)).map OrderedMap.ofList := by
  unfold normalise
  split
  · next hempty =>
    cases List.isEmpty_iff.1 hempty
    rfl
  · exact addEntries_eq limit? .empty entries

/-! ## The length limit -/

/-- An attribute with a function applied to all of its texts. -/
def Attribute.mapText (f : String → String) : Attribute → Attribute
  | .text s => .text (f s)
  | .texts items => .texts (items.map f)
  | a => a

/-- Cutting a text comes after making it. -/
theorem cutText_eq (limit? : Option Int) (v : Value) :
    cutText limit? v = (cutText none v).map (cut limit?) := by
  rw [cutText, cutText]
  cases v.plainText <;> rfl

/-- Cutting the text of an attribute comes after making it. -/
theorem map_cutText (limit? : Option Int) (v : Value) :
    (cutText limit? v).map .text =
      ((cutText none v).map .text).map (Attribute.mapText (cut limit?)) := by
  rw [cutText_eq]
  cases cutText none v <;> rfl

/-- Cutting texts comes after making all of them. -/
theorem mapM_cutText (limit? : Option Int) (items : List Value) :
    items.mapM (cutText limit?) = (items.mapM (cutText none)).map (List.map (cut limit?)) := by
  induction items with
  | nil => rfl
  | cons v rest ih =>
    rw [List.mapM_cons, List.mapM_cons, cutText_eq, ih]
    cases cutText none v with
    | error fault => rfl
    | ok s => cases rest.mapM (cutText none) <;> rfl

/-- Cutting the texts of a sequence comes after making it. -/
theorem ofSequence_eq (limit? : Option Int) (items : List Value) :
    ofSequence limit? items = (ofSequence none items).map (Attribute.mapText (cut limit?)) := by
  unfold ofSequence
  dsimp only
  split
  · rfl
  · split
    · rfl
    · rfl
    · rfl
    · rw [mapM_cutText]
      cases (items.filter isPresent).mapM (cutText none) <;> rfl

/-- A limit cuts the texts of a value and changes nothing else. -/
theorem ofValue_eq (limit? : Option Int) (v : Value) :
    ofValue limit? v = (ofValue none v).map (Attribute.mapText (cut limit?)) := by
  cases v with
  | null | complex | bytes | path | set | record =>
    simp only [ofValue]
    exact map_cutText limit? _
  | map entries =>
    rw [ofValue, ofValue]
    cases (Value.map entries).written <;> rfl
  | list items => exact ofSequence_eq limit? items
  | tuple items => exact ofSequence_eq limit? items
  | bool | int | float | text | member => rfl

/-- Cutting the texts of an attribute comes after making it. -/
theorem namedAttribute_eq (limit? : Option Int) (entry : Value × Value) :
    namedAttribute limit? entry = (namedAttribute none entry).map fun e =>
      (e.1, e.2.mapText (cut limit?)) := by
  rw [namedAttribute, namedAttribute, ofValue_eq]
  cases entry.1.plainText with
  | error fault => rfl
  | ok key => cases ofValue none entry.2 <;> rfl

/-- Cutting the texts of attributes comes after making all of them. -/
theorem mapM_named (limit? : Option Int) (entries : List (Value × Value)) :
    entries.mapM (namedAttribute limit?) = (entries.mapM (namedAttribute none)).map
      (List.map fun e => (e.1, e.2.mapText (cut limit?))) := by
  induction entries with
  | nil => rfl
  | cons entry rest ih =>
    rw [List.mapM_cons, List.mapM_cons, namedAttribute_eq, ih]
    cases namedAttribute none entry with
    | error fault => rfl
    | ok e => cases rest.mapM (namedAttribute none) <;> rfl

/-- A length limit cuts the texts and changes nothing else. -/
theorem normalise_eq_shortened (limit? : Option Int) (entries : List (Value × Value)) :
    normalise limit? (.map entries) = (normalise none (.map entries)).map
      (OrderedMap.mapValues (Attribute.mapText (cut limit?))) := by
  rw [normalise_map, normalise_map, mapM_named]
  cases (presentEntries entries).mapM (namedAttribute none) with
  | error fault => rfl
  | ok results => exact congrArg Except.ok (OrderedMap.ofList_map _ results)

/-! ## What a span takes -/

/-- The kinds of items that a span takes. -/
inductive ItemKind where
  | text
  | bool
  | int
  | float
  deriving DecidableEq, Repr

/-- The kind of an item; nothing, collections and all other values have none. -/
def itemKind? : Value → Option ItemKind
  | .text _ => some .text
  | .bool _ => some .bool
  | .int _ => some .int
  | .float _ => some .float
  | _ => none

/-- A value that a span takes: an item, or a list of items of one kind. -/
inductive Safe : Value → Prop
  | item {v : Value} {kind : ItemKind} (h : itemKind? v = some kind) : Safe v
  | items {items : List Value} {kind : ItemKind} (h : ∀ item ∈ items, itemKind? item = some kind) :
      Safe (.list items)

/-- Attributes are safe values. -/
theorem safe_toValue (a : Attribute) : Safe a.toValue := by
  cases a with
  | text s => exact .item rfl
  | bool b => exact .item rfl
  | int n => exact .item rfl
  | float x => exact .item rfl
  | texts items => exact .items (List.forall_mem_map.2 fun _ _ => rfl)
  | bools items => exact .items (List.forall_mem_map.2 fun _ _ => rfl)
  | ints items => exact .items (List.forall_mem_map.2 fun _ _ => rfl)
  | floats items => exact .items (List.forall_mem_map.2 fun _ _ => rfl)

/-! ## Keys and values -/

/-- An attribute is named by the plain text of its key. -/
theorem namedAttribute_eq_ok_iff {limit? : Option Int} {entry : Value × Value}
    {result : String × Attribute} : namedAttribute limit? entry = .ok result ↔
      entry.1.plainText = .ok result.1 ∧ ofValue limit? entry.2 = .ok result.2 := by
  rw [namedAttribute]
  cases entry.1.plainText <;> cases ofValue limit? entry.2 <;>
    simp [bind, Except.bind, pure, Except.pure, Prod.ext_iff]

/-- A value with a plain text stands in messages as this text. -/
theorem messageText_of_plainText {v : Value} {s : String} (h : v.plainText = .ok s) :
    v.messageText = s := by
  rw [Value.messageText, h]

/-- The last entry under a text is found where the texts of the keys are looked for from the end. -/
theorem exists_find?_of_forall₂ {limit? : Option Int} {entries : List (Value × Value)}
    {results : List (String × Attribute)}
    (h : List.Forall₂ (fun entry e => namedAttribute limit? entry = .ok e) entries results)
    {key : String} {a : Attribute} (ha : OrderedMap.findIn? key results = some a) :
    ∃ entry, entries.find? (fun e => e.1.messageText = key) = some entry ∧
      ofValue limit? entry.2 = .ok a := by
  induction h with
  | nil => cases ha
  | @cons entry e entries results hfirst hrest ih =>
    obtain ⟨hkey, hvalue⟩ := namedAttribute_eq_ok_iff.1 hfirst
    have hsaid := messageText_of_plainText hkey
    rw [OrderedMap.findIn?] at ha
    split at ha
    · next heq =>
      cases ha
      exact ⟨entry, List.find?_cons_of_pos (by simpa [hsaid] using heq), hvalue⟩
    · next hne =>
      obtain ⟨entry', hfound, hvalue'⟩ := ih ha
      refine ⟨entry', ?_, hvalue'⟩
      rwa [List.find?_cons_of_neg (by simpa [hsaid] using hne)]

/-- Attributes are named in the order of their entries. -/
theorem keys_of_mapM {limit? : Option Int} {entries : List (Value × Value)}
    {results : List (String × Attribute)} (h : entries.mapM (namedAttribute limit?) = .ok results) :
    results.map Prod.fst = entries.map fun entry => entry.1.messageText := by
  have hsame : List.Forall₂ (· = ·) (entries.map fun entry => entry.1.messageText)
      (results.map Prod.fst) := by
    rw [List.forall₂_map_left_iff, List.forall₂_map_right_iff]
    exact (Attempt.mapM_eq_ok_iff.1 h).imp fun _ _ he =>
      messageText_of_plainText (namedAttribute_eq_ok_iff.1 he).1
  rw [List.forall₂_eq_eq_eq] at hsame
  exact hsame.symm

/-- The attributes of a map have the texts of its keys that have a value, each once and in the place
of its first entry, with the value of its last entry.  A span takes each of them, and a length limit
leaves the front of every text. -/
theorem normalise_safe {limit? : Option Int} {entries : List (Value × Value)}
    {attributes : Attributes} (h : normalise limit? (.map entries) = .ok attributes) :
    (∀ entry ∈ presentEntries entries, entry.1.plainText = .ok entry.1.messageText) ∧
    attributes.keys = ((presentEntries entries).map fun entry => entry.1.messageText).eraseDups ∧
    (∀ key ∈ attributes.keys, ∃ entry a,
      (presentEntries entries).reverse.find? (fun e => e.1.messageText = key) = some entry ∧
        ofValue limit? entry.2 = .ok a ∧ attributes.find? key = some a) ∧
    (∀ a ∈ attributes.values, Safe a.toValue) ∧
    ∃ whole, normalise none (.map entries) = .ok whole ∧ (limit? = none → attributes = whole) ∧
      ∀ limit, limit? = some limit → attributes = whole.mapValues
        (.mapText fun s => String.ofList (s.toList.take (max limit 0).toNat)) := by
  have hwhole := normalise_eq_shortened limit? entries
  rw [h] at hwhole
  obtain ⟨whole, hnone, hshort⟩ := Attempt.map_eq_ok_iff.1 hwhole.symm
  have hnamed := h
  rw [normalise_map] at hnamed
  obtain ⟨results, hresults, hattributes⟩ := Attempt.map_eq_ok_iff.1 hnamed
  refine ⟨fun entry hentry => ?_, ?_, fun key hkey => ?_, fun a _ => safe_toValue a, whole, hnone,
    ?_, ?_⟩
  · obtain ⟨e, he⟩ := Attempt.exists_of_mapM_eq_ok hresults hentry
    have hkey := (namedAttribute_eq_ok_iff.1 he).1
    rw [hkey, messageText_of_plainText hkey]
  · rw [← hattributes, OrderedMap.keys_ofList, keys_of_mapM hresults]
  · obtain ⟨a, ha⟩ := OrderedMap.mem_keys_iff.1 hkey
    have hlast := ha
    rw [← hattributes, OrderedMap.find?_ofList_eq] at hlast
    have hpairs := List.forall₂_reverse_iff.2 (Attempt.mapM_eq_ok_iff.1 hresults)
    obtain ⟨entry, hentry, hvalue⟩ := exists_find?_of_forall₂ hpairs hlast
    exact ⟨entry, a, hentry, hvalue, ha⟩
  · rintro rfl
    exact Except.ok.inj (h.symm.trans hnone)
  · rintro limit rfl
    have hcount : (max limit 0).toNat = limit.toNat := by omega
    rw [hcount]
    exact hshort.symm

/-- The last of two entries under one text counts, and all of its texts are cut. -/
theorem normalise_safe_cut : ∃ attributes,
    normalise (some 2) (.map [(.text "a", .null), (.text "b", .bool true), (.text "c", .text "xyz"),
      (.text "b", .list [.null, .text "uvw", .bool true])]) = .ok attributes ∧
    attributes.keys = ["b", "c"] ∧ attributes.find? "b" = some (.texts ["uv", "Tr"]) ∧
    ∀ a ∈ attributes.values, Safe a.toValue := by
  refine ⟨⟨[("b", .texts ["uv", "Tr"]), ("c", .text "xy")], by decide⟩, ?hnormalised, rfl, rfl,
    (normalise_safe ?hnormalised).2.2.2.1⟩
  rfl

end PackageBuild.Telemetry
