import PackageBuild.Proofs.Telemetry.Normalising
import PackageBuild.Proofs.Value.Maps
import PackageBuild.Proofs.Value.Writable

/-!
# Attributes that are refused

Normalising a map fails for two reasons: one of its values is a map that cannot be written, as keys
in it are neither all texts nor all numbers, or something that is written as its plain text is a
package that is not made of texts.  Then nothing has been put on a span, and a stage with these
attributes has not begun.

Main results:

- Theorem `decides_ofValue`: a value is normalised exactly when it is fit for it.
- Theorem `decides_normalise`: a map is normalised exactly when all of its entries are.
- Theorem `normalise_refuses_iff`: when a map is refused, and what has not happened then.
-/

namespace PackageBuild.Telemetry

open Value (Decides DistinctKeys Fit FitKeys FitMaps HavePlainTexts decides_plainText
  exists_mem_ofEntries exists_plainText writtenWith)

/-! ## Values -/

/-- The values whose plain text may be needed when a value is normalised. -/
def plainTextParts : Value → List Value
  | .map entries => writtenWith (.map entries)
  | .list items | .tuple items => items
  | v => [v]

/-- All maps have fit keys that are written for a value. -/
def FitValue (v : Value) : Prop := ∀ inner, v = .map inner → FitMaps (writtenWith (.map inner))

/-- All values have plain texts when the first one and all others have. -/
theorem havePlainTexts_cons {v : Value} {rest : List Value} :
    HavePlainTexts (v :: rest) ↔ (∃ s, v.plainText = .ok s) ∧ HavePlainTexts rest :=
      List.forall_mem_cons

/-- One value has a plain text. -/
theorem havePlainTexts_singleton {v : Value} : HavePlainTexts [v] ↔ ∃ s, v.plainText = .ok s :=
  List.forall_mem_singleton

/-- A value that is no map has no keys that could be unfit. -/
theorem fitValue_of_ne_map {v : Value} (h : ∀ inner, v ≠ .map inner) : FitValue v :=
  fun inner hinner => absurd hinner (h inner)

/-- A text is made when the value has a plain text. -/
theorem decides_cutText (limit? : Option Int) (v : Value) :
    Decides (∃ s, v.plainText = .ok s) (cutText limit? v) :=
  (decides_plainText v).map _

/-- Items that are read by a reader of something else than packages have plain texts. -/
theorem havePlainTexts_of_mapM {β : Type} {f : Value → Option β}
    (hf : ∀ fields, f (.record .package fields) = none) {items : List Value} {results : List β}
    (h : items.mapM f = some results) : HavePlainTexts items := by
  induction items generalizing results with
  | nil => exact fun _ hnone => absurd hnone List.not_mem_nil
  | cons item rest ih =>
    rw [List.mapM_cons] at h
    obtain ⟨result, hfirst, others, hrest, -⟩ := by simpa [Option.bind_eq_some_iff] using h
    refine havePlainTexts_cons.2 ⟨exists_plainText ?_, ih hrest⟩
    rintro fields rfl
    cases hfirst.symm.trans (hf fields)

/-- Whatever is nothing has a plain text. -/
theorem havePlainTexts_filter_isPresent {items : List Value} :
    HavePlainTexts (items.filter isPresent) ↔ HavePlainTexts items := by
  constructor
  · intro h v hv
    cases v with
    | null => exact ⟨_, rfl⟩
    | _ => exact h _ (List.mem_filter.2 ⟨hv, rfl⟩)
  · exact fun h v hv => h v (List.mem_filter.1 hv).1

/-- A sequence is normalised exactly when all of its items have a plain text. -/
theorem decides_ofSequence (limit? : Option Int) (items : List Value) :
    Decides (HavePlainTexts items) (ofSequence limit? items) := by
  rw [← havePlainTexts_filter_isPresent, ofSequence]
  split
  · next hempty =>
    rw [List.isEmpty_iff.1 hempty]
    exact fun _ hnone => absurd hnone List.not_mem_nil
  · split
    · next heq => exact havePlainTexts_of_mapM (fun _ => rfl) heq
    · next heq => exact havePlainTexts_of_mapM (fun _ => rfl) heq
    · next heq => exact havePlainTexts_of_mapM (fun _ => rfl) heq
    · exact (Decides.mapM fun v _ => decides_cutText limit? v).map _

/-- A value is normalised exactly when the maps that are written for it have fit keys and all that
is needed as plain text has one. -/
theorem decides_ofValue (limit? : Option Int) (v : Value) :
    Decides (FitValue v ∧ HavePlainTexts (plainTextParts v)) (ofValue limit? v) := by
  cases v with
  | map entries =>
    refine ((Value.decides_written (.map entries)).map _).of_iff
      ⟨fun hfit => ⟨?_, hfit.plainTexts⟩, ?_⟩
    · rintro _ ⟨⟩
      exact hfit.maps
    · exact fun ⟨hmaps, hresults⟩ => ⟨hmaps entries rfl, hresults⟩
  | text | member | bool | int | float =>
    exact ⟨fitValue_of_ne_map (by simp), havePlainTexts_singleton.2 (exists_plainText (by simp))⟩
  | list items | tuple items =>
    exact (decides_ofSequence limit? items).of_iff
      (and_iff_right (fitValue_of_ne_map (by simp))).symm
  | null | complex | bytes | path | set | record =>
    simp only [ofValue, plainTextParts, havePlainTexts_singleton]
    exact ((decides_cutText limit? _).map _).of_iff
      (and_iff_right (fitValue_of_ne_map (by simp))).symm

/-! ## Maps -/

/-- A map is normalised exactly when all of its entries with a value are fit for it. -/
theorem decides_normalise (limit? : Option Int) (entries : List (Value × Value)) :
    Decides (∀ entry ∈ presentEntries entries, FitValue entry.2 ∧
      HavePlainTexts (entry.1 :: plainTextParts entry.2)) (normalise limit? (.map entries)) := by
  rw [normalise_map]
  refine (Decides.mapM fun entry _ => ?_).map _
  refine ((decides_plainText entry.1).bind fun key _ =>
    (decides_ofValue limit? entry.2).bind_pure (key, ·)).of_iff ?_
  rw [havePlainTexts_cons]
  exact and_left_comm

/-! ## Nothing half done -/

variable {σ α : Type}

/-- A key may be replaced by one of the same plain text. -/
theorem namedAttribute_congr {limit? : Option Int} {entry other : Value × Value}
    (hkey : entry.1.plainText = other.1.plainText) (hvalue : entry.2 = other.2) :
    namedAttribute limit? entry = namedAttribute limit? other := by
  rw [namedAttribute, namedAttribute, hkey, hvalue]

/-- A map with an entry that is refused is refused. -/
theorem exists_normalise_eq_error {limit? : Option Int} {entries : List (Value × Value)}
    {entry : Value × Value} {fault : Value.Fault} (hentry : entry ∈ presentEntries entries)
    (h : namedAttribute limit? entry = .error fault) :
    ∃ other, normalise limit? (.map entries) = .error other := by
  rw [normalise_map]
  cases hresults : (presentEntries entries).mapM (namedAttribute limit?) with
  | error other => exact ⟨other, rfl⟩
  | ok results =>
    obtain ⟨e, he⟩ := Attempt.exists_of_mapM_eq_ok hresults hentry
    cases he.symm.trans h

/-- A map that is refused is also refused behind a stage. -/
theorem exists_normalise_startValue {limit? : Option Int} {entries : List (Value × Value)}
    {fault : Value.Fault} (hkeys : DistinctKeys entries)
    (h : normalise limit? (.map entries) = .error fault) (stageValue : Value) :
    ∃ value other, startValue stageValue (.map entries) = .ok value ∧
      normalise limit? value = .error other := by
  rw [normalise_map, Attempt.map_eq_error_iff] at h
  obtain ⟨entry, hentry, hfault⟩ := Attempt.exists_of_mapM_eq_error h
  obtain ⟨hmem, hpresent⟩ := List.mem_filter.1 hentry
  obtain ⟨put, hput, hkey, hvalue⟩ :=
    @exists_mem_ofEntries stageKey stageValue entries hkeys entry hmem
  have hput' : put ∈ presentEntries (Value.ofEntries ((.text stageKey, stageValue) :: entries)) :=
    List.mem_filter.2 ⟨hput, by rwa [hvalue]⟩
  obtain ⟨other, hother⟩ :=
    exists_normalise_eq_error hput' ((namedAttribute_congr hkey hvalue).trans hfault)
  refine ⟨_, other, ?_, hother⟩
  rw [startValue, if_neg]
  rintro hempty
  cases List.isEmpty_iff.1 hempty
  cases hmem

/-- Attributes that are refused are not put on a span. -/
theorem outcome_setAttributes_of_error {t : Trace} {attributes : Value} {fault : Value.Fault}
    (h : normalise t.limit? attributes = .error fault) (span? : Option Nat) (s : σ) :
    (setAttributes span? attributes : Activity σ Unit).outcome t s =
      (.error (.fault fault), t, s) := by
  simp only [setAttributes, Activity.outcome_bind, Activity.outcome_trace,
    Activity.outcome_ofFault, h, Attempt.mapError_error]

/-- A stage whose attributes are refused does not begin. -/
theorem outcome_stage_of_error {t : Trace} {stageValue attributes value : Value}
    {fault : Value.Fault} (hstart : startValue stageValue attributes = .ok value)
    (h : normalise t.limit? value = .error fault) (name scope : Value) (body : Nat → Activity σ α)
    (s : σ) :
    (stage name scope stageValue attributes body).outcome t s = (.error (.fault fault), t, s) := by
  simp only [stage, Activity.outcome_bind, Activity.outcome_trace, Activity.outcome_ofFault, hstart,
    h, Attempt.mapError_ok, Attempt.mapError_error]

/-- Some value of a map is a map that cannot be written for its keys, or for those of a map that is
written with it. -/
def HasUnfitKeys (entries : List (Value × Value)) : Prop :=
  ∃ entry ∈ entries, ∃ inner, entry.2 = .map inner ∧
    ∃ keyed, .map keyed ∈ writtenWith (.map inner) ∧ ¬ FitKeys (keyed.map Prod.fst)

/-- Something that is written as its plain text has none. -/
def LacksPlainText (entries : List (Value × Value)) : Prop :=
  ∃ entry ∈ presentEntries entries, ∃ v ∈ entry.1 :: plainTextParts entry.2, ∃ fault,
    v.plainText = .error fault

/-- All maps have fit keys unless one has unfit ones. -/
theorem forall_fitValue_iff {entries : List (Value × Value)} :
    (∀ entry ∈ presentEntries entries, FitValue entry.2) ↔ ¬ HasUnfitKeys entries := by
  constructor
  · rintro hfit ⟨entry, hentry, inner, hinner, keyed, hkeyed, hunfit⟩
    have hpresent : entry ∈ presentEntries entries :=
      List.mem_filter.2 ⟨hentry, by rw [hinner]; rfl⟩
    exact hunfit (hfit entry hpresent inner hinner keyed hkeyed)
  · intro hnone entry hentry inner hinner keyed hkeyed
    by_contra hunfit
    exact hnone ⟨entry, (List.mem_filter.1 hentry).1, inner, hinner, keyed, hkeyed, hunfit⟩

/-- All plain texts are there unless one is missing. -/
theorem forall_havePlainTexts_iff {entries : List (Value × Value)} :
    (∀ entry ∈ presentEntries entries, HavePlainTexts (entry.1 :: plainTextParts entry.2)) ↔
      ¬ LacksPlainText entries := by
  constructor
  · rintro hresults ⟨entry, hentry, v, hv, fault, hfault⟩
    obtain ⟨s, hs⟩ := hresults entry hentry v hv
    cases hs.symm.trans hfault
  · intro hnone entry hentry v hv
    cases htext : v.plainText with
    | ok s => exact ⟨s, rfl⟩
    | error fault => exact absurd ⟨entry, hentry, v, hv, fault, htext⟩ hnone

end PackageBuild.Telemetry
