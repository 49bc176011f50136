import PackageBuild.Proofs.Telemetry.Normalising

/-!
# Attributes that have settled

Normalising once is enough.  What comes out has settled: its texts are within the length limit, and
a sequence without items counts as one of texts.  A second normalisation leaves exactly such
attributes as they are, with their kinds and in their places.

Main results:

- Theorem `cut_eq_self_iff`: a limit leaves the texts as they are that are within it.
- Theorem `ofValue_toValue_iff`: an attribute is read back as itself exactly when it has settled.
- Theorem `normalise_toValue_iff`: so are attributes under their names.
- Theorem `normalise_normalise`: what comes out of normalisation stays as it is.
-/

namespace PackageBuild.Telemetry

variable {limit? : Option Int}

/-! ## Texts within a limit -/

/-- A text is not longer than a limit, if there is one. -/
def Within (limit? : Option Int) (s : String) : Prop :=
  ∀ limit, limit? = some limit → s.toList.length ≤ limit.toNat

/-- A text that was cut is within the limit. -/
theorem within_cut (limit? : Option Int) (s : String) : Within limit? (cut limit? s) := by
  rintro limit rfl
  rw [cut, String.toList_ofList]
  exact List.length_take_le _ _

/-- A limit leaves exactly the texts as they are that are within it. -/
theorem cut_eq_self_iff {s : String} : cut limit? s = s ↔ Within limit? s := by
  constructor
  · intro h
    rw [← h]
    exact within_cut limit? s
  · intro h
    cases limit? with
    | none => rfl
    | some limit => rw [cut, List.take_of_length_le (h limit rfl), String.ofList_toList]

/-! ## Normal forms -/

/-- An attribute in a form that normalisation can leave. -/
def NormalForm (limit? : Option Int) : Attribute → Prop
  | .text s => Within limit? s
  | .texts items => ∀ s ∈ items, Within limit? s
  | .bools items => items ≠ []
  | .ints items => items ≠ []
  | .floats items => items ≠ []
  | .bool _ | .int _ | .float _ => True

/-- Items that are something have results, if all of them are read. -/
theorem ne_nil_of_mapM {β : Type} {f : Value → Option β} {items : List Value} {results : List β}
    (hitems : ¬ items.isEmpty = true) (h : items.mapM f = some results) : results ≠ [] := by
  rintro rfl
  cases items with
  | nil => exact hitems rfl
  | cons item rest =>
    rw [List.mapM_cons] at h
    simp [Option.bind_eq_some_iff] at h

/-- A text that was made under a limit is within it. -/
theorem normalForm_of_cutText {v : Value} {s : String} (h : cutText limit? v = .ok s) :
    Within limit? s := by
  obtain ⟨whole, -, rfl⟩ := Attempt.map_eq_ok_iff.1 h
  exact within_cut limit? whole

/-- An attribute made of one text is in normal form. -/
theorem normalForm_of_map_cutText {v : Value} {a : Attribute}
    (h : (cutText limit? v).map .text = .ok a) : NormalForm limit? a := by
  obtain ⟨s, hs, rfl⟩ := Attempt.map_eq_ok_iff.1 h
  exact normalForm_of_cutText hs

/-- An attribute made of a sequence is in normal form. -/
theorem normalForm_of_ofSequence {items : List Value} {a : Attribute}
    (h : ofSequence limit? items = .ok a) : NormalForm limit? a := by
  unfold ofSequence at h
  dsimp only at h
  split at h
  · cases h
    exact List.forall_mem_nil _
  · next hpresent =>
    split at h
    · next hbools =>
      cases h
      exact ne_nil_of_mapM hpresent hbools
    · next hints =>
      cases h
      exact ne_nil_of_mapM hpresent hints
    · next hfloats =>
      cases h
      exact ne_nil_of_mapM hpresent hfloats
    · obtain ⟨texts, htexts, rfl⟩ := Attempt.map_eq_ok_iff.1 h
      intro s hs
      obtain ⟨v, -, hv⟩ := Attempt.exists_of_mem_mapM htexts hs
      exact normalForm_of_cutText hv

/-- A value becomes an attribute that has settled. -/
theorem normalForm_of_ofValue {v : Value} {a : Attribute} (h : ofValue limit? v = .ok a) :
    NormalForm limit? a := by
  cases v with
  | text | member =>
    cases h
    exact within_cut limit? _
  | bool | int | float =>
    cases h
    trivial
  | map entries =>
    obtain ⟨s, -, rfl⟩ := Attempt.map_eq_ok_iff.1 h
    exact within_cut limit? s
  | list items | tuple items => exact normalForm_of_ofSequence h
  | null | complex | bytes | path | set | record =>
    simp only [ofValue] at h
    exact normalForm_of_map_cutText h

/-! ## Reading an attribute back -/

/-- No attribute is nothing. -/
theorem isPresent_toValue (a : Attribute) : isPresent a.toValue = true := by
  cases a <;> rfl

section

variable {β γ : Type} {f : β → Value} {items : List β}

/-- Items that are read by the reader of their kind. -/
theorem mapM_map_eq_some (read : Value → Option β) (h : ∀ b, read (f b) = some b)
    (items : List β) : (items.map f).mapM read = some items := by
  induction items with
  | nil => rfl
  | cons item rest ih => simp [h, ih]

/-- Items that are read by the reader of another kind. -/
theorem mapM_map_eq_none (read : Value → Option γ) (h : ∀ b, read (f b) = none)
    (hitems : items ≠ []) : (items.map f).mapM read = none := by
  cases items with
  | nil => exact absurd rfl hitems
  | cons item rest => simp [h]

/-- Items none of which is nothing are all kept. -/
theorem filter_isPresent_map (h : ∀ b, isPresent (f b) = true) (items : List β) :
    (items.map f).filter isPresent = items.map f :=
  List.filter_eq_self.2 (List.forall_mem_map.2 fun b _ => h b)

/-- A list that is not empty has items after mapping. -/
theorem not_isEmpty_map (f : β → Value) (hitems : items ≠ []) :
    ¬ (items.map f).isEmpty = true := by
  rwa [List.isEmpty_iff, List.map_eq_nil_iff]

end

/-- Truth values make an attribute of truth values. -/
theorem ofSequence_bools (limit? : Option Int) {items : List Bool} (hitems : items ≠ []) :
    ofSequence limit? (items.map .bool) = .ok (.bools items) := by
  unfold ofSequence
  rw [filter_isPresent_map fun _ => rfl]
  dsimp only
  rw [if_neg (not_isEmpty_map _ hitems), mapM_map_eq_some asBool? fun _ => rfl]

/-- Integers make an attribute of integers. -/
theorem ofSequence_ints (limit? : Option Int) {items : List Int} (hitems : items ≠ []) :
    ofSequence limit? (items.map .int) = .ok (.ints items) := by
  unfold ofSequence
  rw [filter_isPresent_map fun _ => rfl]
  dsimp only
  rw [if_neg (not_isEmpty_map _ hitems), mapM_map_eq_none asBool? (fun _ => rfl) hitems,
    mapM_map_eq_some asInteger? fun _ => rfl]

/-- Floating-point numbers make an attribute of such numbers. -/
theorem ofSequence_floats (limit? : Option Int) {items : List Number.Binary64}
    (hitems : items ≠ []) : ofSequence limit? (items.map .float) = .ok (.floats items) := by
  unfold ofSequence
  rw [filter_isPresent_map fun _ => rfl]
  dsimp only
  rw [if_neg (not_isEmpty_map _ hitems), mapM_map_eq_none asBool? (fun _ => rfl) hitems,
    mapM_map_eq_none asInteger? (fun _ => rfl) hitems, mapM_map_eq_some asFloat? fun _ => rfl]

/-- Texts are cut once more; no text at all is a sequence of texts as well. -/
theorem ofSequence_texts (limit? : Option Int) (items : List String) :
    ofSequence limit? (items.map .text) = .ok (.texts (items.map (cut limit?))) := by
  have hcut : (items.map Value.text).mapM (cutText limit?) = .ok (items.map (cut limit?)) := by
    rw [List.mapM_map]
    exact Attempt.mapM_eq_ok_map fun _ _ => rfl
  by_cases hitems : items = []
  · rw [hitems]
    rfl
  · unfold ofSequence
    rw [filter_isPresent_map fun _ => rfl]
    dsimp only
    rw [if_neg (not_isEmpty_map _ hitems), mapM_map_eq_none asBool? (fun _ => rfl) hitems,
      mapM_map_eq_none asInteger? (fun _ => rfl) hitems,
      mapM_map_eq_none asFloat? (fun _ => rfl) hitems, hcut]
    rfl

/-- An attribute is read back as itself exactly when it has settled. -/
theorem ofValue_toValue_iff {a : Attribute} :
    ofValue limit? a.toValue = .ok a ↔ NormalForm limit? a := by
  refine ⟨normalForm_of_ofValue, fun h => ?_⟩
  cases a with
  | text s =>
    have hcut : cut limit? s = s := cut_eq_self_iff.2 h
    simp only [Attribute.toValue, ofValue, hcut]
  | bool | int | float => rfl
  | texts items =>
    have hcut : items.map (cut limit?) = items :=
      (List.map_congr_left fun s hs => cut_eq_self_iff.2 (h s hs)).trans (List.map_id' items)
    rw [Attribute.toValue, ofValue, ofSequence_texts, hcut]
  | bools items => exact ofSequence_bools limit? h
  | ints items => exact ofSequence_ints limit? h
  | floats items => exact ofSequence_floats limit? h

/-! ## Attributes under their names -/

/-- Attributes as a map of values. -/
def Attributes.toValue (attributes : Attributes) : Value :=
  .map (attributes.entries.map fun entry => (.text entry.1, entry.2.toValue))

/-- An attribute is normalised to itself when it is in normal form. -/
theorem namedAttribute_toValue_iff {entry : String × Attribute} :
    namedAttribute limit? (.text entry.1, entry.2.toValue) = .ok entry ↔
      NormalForm limit? entry.2 := by
  rw [namedAttribute_eq_ok_iff, ofValue_toValue_iff]
  exact and_iff_right rfl

/-- Each entry of attributes is normalised apart from the others. -/
theorem normalise_toValue_eq_ok_iff {attributes : Attributes} :
    normalise limit? attributes.toValue = .ok attributes ↔
      ∀ entry ∈ attributes.entries,
        namedAttribute limit? (.text entry.1, entry.2.toValue) = .ok entry := by
  have hpresent : presentEntries
      (attributes.entries.map fun entry => (.text entry.1, entry.2.toValue)) =
      attributes.entries.map fun entry => (.text entry.1, entry.2.toValue) :=
    List.filter_eq_self.2 (List.forall_mem_map.2 fun entry _ => isPresent_toValue entry.2)
  rw [Attributes.toValue, normalise_map, hpresent, Attempt.map_eq_ok_iff]
  constructor
  · rintro ⟨results, hresults, hattributes⟩
    have hkeys : results.map Prod.fst = attributes.entries.map Prod.fst := by
      rw [keys_of_mapM hresults, List.map_map]
      rfl
    -- The names differ, so the map of the named attributes has just these as its entries.
    have hsame : results = attributes.entries := by
      rw [← hattributes, OrderedMap.entries_ofList (hkeys ▸ attributes.nodup)]
    rw [hsame] at hresults
    have hpairs := Attempt.mapM_eq_ok_iff.1 hresults
    rwa [List.forall₂_map_left_iff, List.forall₂_same] at hpairs
  · intro h
    refine ⟨attributes.entries, ?_, ?_⟩
    · rw [Attempt.mapM_eq_ok_iff, List.forall₂_map_left_iff, List.forall₂_same]
      exact h
    · exact OrderedMap.ext_entries (OrderedMap.entries_ofList attributes.nodup)

/-- A second normalisation leaves exactly those attributes as they are that have settled. -/
theorem normalise_toValue_iff {attributes : Attributes} :
    normalise limit? attributes.toValue = .ok attributes ↔
      ∀ a ∈ attributes.values, NormalForm limit? a := by
  rw [normalise_toValue_eq_ok_iff, OrderedMap.values, List.forall_mem_map]
  exact forall₂_congr fun _ _ => namedAttribute_toValue_iff

/-- All attributes that come out of normalisation have settled. -/
theorem normalForm_of_normalise {v : Value} {attributes : Attributes}
    (h : normalise limit? v = .ok attributes) : ∀ a ∈ attributes.values, NormalForm limit? a := by
  intro a ha
  cases v with
  | map entries =>
    rw [normalise_map] at h
    obtain ⟨results, hresults, rfl⟩ := Attempt.map_eq_ok_iff.1 h
    obtain ⟨⟨key, value⟩, hentry, rfl⟩ := List.mem_map.1 ha
    have hfound := OrderedMap.mem_entries_iff.1 hentry
    rw [OrderedMap.find?_ofList_eq] at hfound
    have hmem := List.mem_reverse.1 (OrderedMap.mem_of_findIn? hfound)
    obtain ⟨entry, -, hnamed⟩ := Attempt.exists_of_mem_mapM hresults hmem
    exact normalForm_of_ofValue (namedAttribute_eq_ok_iff.1 hnamed).2
  | _ =>
    unfold normalise at h
    split at h
    · cases h
      contradiction
    · cases h

/-- Normalising what came out of normalisation changes nothing: it has the same names in the same
order and the same attributes, each of its kind, whatever the length limit is. -/
theorem normalise_normalise {v : Value} {attributes : Attributes}
    (h : normalise limit? v = .ok attributes) :
    normalise limit? attributes.toValue = .ok attributes :=
  normalise_toValue_iff.2 (normalForm_of_normalise h)

/-- A sequence of two kinds, a map and a sequence of nothing, with texts of at most three
characters. -/
theorem normalise_normalise_mixed : ∃ attributes,
    normalise (some 3) (.map [(.text "a", .list [.null, .int 1, .text "three"]),
      (.int 7, .map [(.text "b", .bool true)]), (.text "c", .tuple [.null])]) = .ok attributes ∧
    attributes.entries = [("a", .texts ["1", "thr"]), ("7", .text "\x7b\"b"), ("c", .texts [])] ∧
    normalise (some 3) attributes.toValue = .ok attributes := by
  have hentries : (normalise (some 3) (.map [(.text "a", .list [.null, .int 1, .text "three"]),
      (.int 7, .map [(.text "b", .bool true)]), (.text "c", .tuple [.null])])).map
        OrderedMap.entries =
      .ok [("a", .texts ["1", "thr"]), ("7", .text "\x7b\"b"), ("c", .texts [])] := by
    decide +kernel
  obtain ⟨attributes, h, hentries⟩ := Attempt.map_eq_ok_iff.1 hentries
  exact ⟨attributes, h, hentries, normalise_normalise h⟩

end PackageBuild.Telemetry
