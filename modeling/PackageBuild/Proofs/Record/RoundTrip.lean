import Mathlib.Tactic.Choose
import PackageBuild.Proofs.Json.Spelling
import PackageBuild.Proofs.Record.Decoding
import PackageBuild.Proofs.Record.Shape
import PackageBuild.Proofs.Value.Maps

/-!
# Records come back

The plain form of a record leaves out the fields that have their default and its text puts them in
order.  Decoding that text strictly gives an equal record of the same shape, whatever the record
holds at any depth, as long as no integer in it has a numeral that is too long to be decoded.

Main results:

- Theorems `comesBack_sequence`, `comesBack_map` and `comesBack_record`: what is put together from
  values that come back comes back.
- Theorem `comesBack`: a value of a shape comes back.
- Theorem `ofJson_written_plain`: a record comes back from its JSON text.
- Theorem `ofJson_line_of_long`: a numeral that is too long is not read.
-/

namespace PackageBuild

open Text (integerDigits integerText)
open Text.Numeral (digitLimit)

/-! ## Integers -/

namespace Value

mutual

/-- The integers inside a value, with those in its keys. -/
def integers : Value → List Int
  | int n => [n]
  | list items | tuple items | set items => integersOf items
  | map entries => integersOfEntries entries
  | record _ fields => integersOf fields
  | _ => []
termination_by structural v => v

/-- The integers inside items. -/
def integersOf : List Value → List Int
  | [] => []
  | v :: rest => integers v ++ integersOf rest
termination_by structural items => items

/-- The integers inside entries. -/
def integersOfEntries : List (Value × Value) → List Int
  | [] => []
  | (k, v) :: rest => integers k ++ integers v ++ integersOfEntries rest
termination_by structural entries => entries

end

/-- No integer inside the value has a text that is longer than a numeral may be; its sign counts. -/
def HasNumerals (v : Value) : Prop :=
  ∀ n ∈ v.integers, (integerDigits n).length ≤ digitLimit

/-- The integers of a list are those of its items. -/
theorem mem_integersOf_iff {n : Int} {items : List Value} :
    n ∈ integersOf items ↔ ∃ v ∈ items, n ∈ v.integers := by
  induction items with
  | nil => simp [integersOf]
  | cons v rest ih => simp [integersOf, ih]

/-- The integers of a value of a map are among those of the map. -/
theorem mem_integersOfEntries {n : Int} {entries : List (Value × Value)} {entry : Value × Value}
    (hentry : entry ∈ entries) (hn : n ∈ entry.2.integers) : n ∈ integersOfEntries entries := by
  induction entries with
  | nil => contradiction
  | cons first rest ih =>
    obtain ⟨k, v⟩ := first
    rw [integersOfEntries, List.mem_append, List.mem_append]
    rcases List.mem_cons.1 hentry with rfl | hentry
    · exact .inl (.inr hn)
    · exact .inr (ih hentry)

/-- The items of a tuple have numerals if the tuple has. -/
theorem HasNumerals.of_mem_tuple {items : List Value} (h : (tuple items).HasNumerals) {v : Value}
    (hv : v ∈ items) : v.HasNumerals :=
  fun n hn => h n (mem_integersOf_iff.2 ⟨v, hv, hn⟩)

/-- The parts of a record have numerals if the record has. -/
theorem HasNumerals.of_mem_record {type : RecordType} {fields : List Value}
    (h : (record type fields).HasNumerals) {v : Value} (hv : v ∈ fields) : v.HasNumerals :=
  fun n hn => h n (mem_integersOf_iff.2 ⟨v, hv, hn⟩)

/-- The values of a map have numerals if the map has. -/
theorem HasNumerals.of_mem_map {entries : List (Value × Value)} (h : (map entries).HasNumerals)
    {entry : Value × Value} (hentry : entry ∈ entries) : entry.2.HasNumerals :=
  fun n hn => h n (mem_integersOfEntries hentry hn)

/-! ## Equal values -/

/-- Lists are equal when their items are equal one by one. -/
theorem sameItems_map {γ : Type} {f g : γ → Value} {items : List γ}
    (h : ∀ item ∈ items, (f item).same (g item) = true) :
    sameItems (items.map f) (items.map g) = true := by
  induction items with
  | nil => rfl
  | cons item rest ih =>
    rw [List.map_cons, List.map_cons, sameItems, h item List.mem_cons_self,
      ih fun item hitem => h item (List.mem_cons_of_mem _ hitem)]
    rfl

/-- A map is part of another one that has an equal entry for each of its entries. -/
theorem entriesIn_of_forall {entries others : List (Value × Value)}
    (h : ∀ entry ∈ entries, ∃ other ∈ others,
      entry.1.same other.1 = true ∧ entry.2.same other.2 = true) :
    entriesIn entries others = true := by
  induction entries with
  | nil => rfl
  | cons entry rest ih =>
    obtain ⟨other, hother, hkey, hvalue⟩ := h entry List.mem_cons_self
    have hany : (others.any fun e => entry.1.same e.1 && entry.2.same e.2) = true :=
      List.any_eq_true.2 ⟨other, hother, by rw [hkey, hvalue]; rfl⟩
    obtain ⟨k, v⟩ := entry
    rw [entriesIn, hany, ih fun entry hentry => h entry (List.mem_cons_of_mem _ hentry)]
    rfl

end Value

namespace Record

open Json Value

instance : Inhabited Document := ⟨.null⟩

/-! ## Values that come back -/

/-- A value has a plain form, which has a JSON text, which spells a document, which is decoded as a
value of the shape that equals the first one. -/
structure Trip (shape : Shape) (v plainForm : Value) (text : String) (d : Document) (v' : Value) :
    Prop where
  plain : v.plain true = .ok plainForm
  written : plainForm.written = .ok text
  spells : Spells text d
  decoded : ∀ places, decode shape places d = .ok v'
  shaped : HasShape shape v'
  same : v'.same v = true

/-- A value comes back from its JSON text. -/
def ComesBack (shape : Shape) (v : Value) : Prop :=
  ∃ plainForm text d v', Trip shape v plainForm text d v'

/-- A truth value comes back. -/
theorem comesBack_bool (b : Bool) : ComesBack .bool (.bool b) :=
  ⟨_, _, _, .bool b, rfl, rfl, spells_bool b, fun _ => rfl, .bool b, by cases b <;> rfl⟩

/-- A text comes back. -/
theorem comesBack_text (s : String) : ComesBack .text (.text s) :=
  ⟨_, _, _, .text s, rfl, rfl, spells_string s, fun _ => rfl, .text s, by simp [same_text]⟩

/-- A member of a choice comes back. -/
theorem comesBack_member (m : Member) : ComesBack (.choice m.choice) (.member m) :=
  ⟨_, _, _, .member m, rfl, rfl, spells_string m.text, decode_member m, .member m rfl, by
    simp [Value.same, sameAtom, asText?]⟩

/-- Nothing comes back where a value is optional. -/
theorem comesBack_null (shape : Shape) : ComesBack (.optional shape) .null :=
  ⟨_, _, _, .null, rfl, rfl, spells_null, decode_null shape, .nothing shape, rfl⟩

/-- A value comes back also where it is optional. -/
theorem ComesBack.optional {shape : Shape} {v : Value} (h : ComesBack shape v) :
    ComesBack (.optional shape) v := by
  obtain ⟨plainForm, text, d, v', h⟩ := h
  exact ⟨plainForm, text, d, v', h.plain, h.written, h.spells,
    fun places => decode_optional (h.decoded places), .present h.shaped, h.same⟩

/-- An integer whose numeral is not too long comes back. -/
theorem comesBack_int {n : Int} (h : (int n).HasNumerals) : ComesBack .int (.int n) := by
  have hdocument : integerDocument n = .int n :=
    if_neg (Nat.not_lt.2 (h n (List.mem_singleton_self n)))
  refine ⟨_, _, _, .int n, rfl, rfl, spells_integer n, fun places => ?_, .int n, ?_⟩
  · rw [hdocument]
    rfl
  · simp [Value.same, sameAtom, asText?, asComplex?, asReal?, Real.same, Real.compare?]

/-! ## Tuples -/

/-- The plain forms of items are made one by one. -/
theorem plainItems_map {plainOf : Value → Value} {items : List Value}
    (h : ∀ v ∈ items, v.plain true = .ok (plainOf v)) :
    plainItems true items = .ok (items.map plainOf) := by
  induction items with
  | nil => rfl
  | cons v rest ih =>
    rw [plainItems, h v List.mem_cons_self, ih fun v hv => h v (List.mem_cons_of_mem _ hv)]
    rfl

/-- The plain forms of items are written one by one. -/
theorem writtenItems_map {plainOf : Value → Value} {textOf : Value → String} {items : List Value}
    (h : ∀ v ∈ items, (plainOf v).written = .ok (textOf v)) :
    writtenItems (items.map plainOf) = .ok (items.map textOf) := by
  induction items with
  | nil => rfl
  | cons v rest ih =>
    rw [List.map_cons, writtenItems, h v List.mem_cons_self,
      ih fun v hv => h v (List.mem_cons_of_mem _ hv)]
    rfl

/-- A tuple comes back when its items do. -/
theorem comesBack_sequence {item : Shape} {items : List Value}
    (h : ∀ v ∈ items, ComesBack item v) : ComesBack (.sequence item) (.tuple items) := by
  choose! plainOf textOf documentOf readOf h using h
  refine ⟨.tuple (items.map plainOf), "[" ++ Text.joined ", " (items.map textOf) ++ "]",
    .array (items.map documentOf) none, .tuple (items.map readOf), ?_, ?_,
    spells_array fun v hv => (h v hv).spells,
    fun places => decode_array fun v hv => (h v hv).decoded, .sequence ?_, ?_⟩
  · rw [plain, plainItems_map fun v hv => (h v hv).plain]
    rfl
  · rw [written, writtenItems_map fun v hv => (h v hv).written]
    rfl
  · intro back hback
    obtain ⟨v, hv, rfl⟩ := List.mem_map.1 hback
    exact (h v hv).shaped
  · have hsame := sameItems_map (f := readOf) (g := id) fun v hv => (h v hv).same
    rw [List.map_id] at hsame
    rw [same, hsame]

/-! ## Maps -/

/-- A map under texts is written as an object with the same entries. -/
theorem exists_spells_map {γ : Type} (keyOf : γ → String) {plainOf : γ → Value}
    {textOf : γ → String} {documentOf : γ → Document} {items : List γ}
    (hwritten : ∀ item ∈ items, (plainOf item).written = .ok (textOf item))
    (hspells : ∀ item ∈ items, Spells (textOf item) (documentOf item)) :
    ∃ (sorted : List γ) (text : String), sorted.Perm items ∧
      (Value.map (items.map fun item => (.text (keyOf item), plainOf item))).written = .ok text ∧
      Spells text (.object (sorted.map fun item => (keyOf item, documentOf item)) none) := by
  have hperm := perm_inOrder keyOf items
  exact ⟨_, _, hperm, written_map_text keyOf hwritten,
    spells_object keyOf fun item hitem => hspells item (hperm.mem_iff.1 hitem)⟩

/-- A map under different texts comes back when its values do; its entries are put in order. -/
theorem comesBack_map {item : Shape} {entries : List (String × Value)}
    (hdistinct : (entries.map Prod.fst).Nodup) (h : ∀ entry ∈ entries, ComesBack item entry.2) :
    ComesBack (.map item) (.map (entries.map fun entry => (.text entry.1, entry.2))) := by
  choose! plainOf textOf documentOf readOf h using h
  -- The plain form is in order, and its text puts it in order once more.
  have hplain := plain_map_text Prod.fst hdistinct fun entry hentry => (h entry hentry).plain
  have hinOrder := perm_inOrder Prod.fst entries
  have hordered : ∀ entry ∈ inOrder Prod.fst entries,
      Trip item entry.2 (plainOf entry) (textOf entry) (documentOf entry) (readOf entry) :=
    fun entry hentry => h entry (hinOrder.mem_iff.1 hentry)
  obtain ⟨sorted, text, hsorted, hwritten, hspells⟩ :=
    exists_spells_map Prod.fst
      (fun entry hentry => (hordered entry hentry).written)
      fun entry hentry => (hordered entry hentry).spells
  have hperm : sorted.Perm entries := hsorted.trans hinOrder
  have htrip : ∀ entry ∈ sorted,
      Trip item entry.2 (plainOf entry) (textOf entry) (documentOf entry) (readOf entry) :=
    fun entry hentry => hordered entry (hsorted.mem_iff.1 hentry)
  have hnodup : (sorted.map Prod.fst).Nodup := (hperm.map Prod.fst).nodup_iff.2 hdistinct
  refine ⟨_, text, _, .map (sorted.map fun entry => (.text entry.1, readOf entry)), hplain,
    hwritten, hspells, fun places => ?_, ?_, ?_⟩
  · rw [decode_map fun entry hentry => (htrip entry hentry).decoded, ofEntries_map_text hnodup]
  · have hshape : HasShape (.map item)
        (.map ((sorted.map fun entry => (entry.1, readOf entry)).map fun entry =>
          (.text entry.1, entry.2))) := by
      refine .map (by rwa [List.map_map]) fun back hback => ?_
      obtain ⟨entry, hentry, rfl⟩ := List.mem_map.1 hback
      exact (htrip entry hentry).shaped
    rwa [List.map_map] at hshape
  · have hin : entriesIn (sorted.map fun entry => (.text entry.1, readOf entry))
        (entries.map fun entry => (.text entry.1, entry.2)) = true := by
      refine entriesIn_of_forall fun back hback => ?_
      obtain ⟨entry, hentry, rfl⟩ := List.mem_map.1 hback
      refine ⟨_, List.mem_map_of_mem (hperm.mem_iff.1 hentry), ?_, (htrip entry hentry).same⟩
      rw [same_text, beq_self_eq_true]
    rw [same, hin, List.length_map, List.length_map, hperm.length_eq, beq_self_eq_true]
    rfl

/-! ## Records -/

/-- The plain form of a record has the fields that are not left out. -/
theorem plainFields_map {plainOf : Field × Value → Value} {pairs : List (Field × Value)}
    (h : ∀ pair ∈ pairs, pair.2.plain true = .ok (plainOf pair)) :
    plainFields true (pairs.map Prod.fst) (pairs.map Prod.snd) =
      .ok ((pairs.filter fun pair => !pair.1.omits pair.2).map fun pair =>
        (text pair.1.name, plainOf pair)) := by
  induction pairs with
  | nil => rfl
  | cons pair rest ih =>
    have hrest := ih fun pair hpair => h pair (List.mem_cons_of_mem _ hpair)
    rw [List.map_cons, List.map_cons, plainFields, List.filter_cons, hrest,
      h pair List.mem_cons_self]
    cases pair.1.omits pair.2 <;> rfl

/-- Fields have their shapes when each value has the shape of its field. -/
theorem hasFields_map {valueOf : Field × Value → Value} {pairs : List (Field × Value)}
    (h : ∀ pair ∈ pairs, HasShape pair.1.shape (valueOf pair)) :
    HasFields (pairs.map Prod.fst) (pairs.map valueOf) := by
  induction pairs with
  | nil => exact .nil
  | cons pair rest ih =>
    exact .cons (h pair List.mem_cons_self)
      (ih fun pair hpair => h pair (List.mem_cons_of_mem _ hpair))

/-- A default equals itself. -/
theorem same_toValue (d : Default) : d.toValue.same d.toValue = true := by
  cases d <;> rfl

/-- A field that is left out has its default. -/
theorem eq_toValue_of_omits {field : Field} {v : Value} (h : field.omits v = true) :
    ∃ d, field.default? = some d ∧ v = d.toValue := by
  unfold Field.omits at h
  split at h
  · contradiction
  · next d hd => exact ⟨d, hd, Default.matchesValue_iff.1 h⟩

section Fields

variable {pairs kept : List (Field × Value)} {readOf : Field × Value → Value}

/-- A field that was left out comes back with its default, which it had. -/
def backOf (readOf : Field × Value → Value) (pair : Field × Value) : Value :=
  if pair.1.omits pair.2 then pair.2 else readOf pair

/-- A field that comes back, or is left out, has its shape again. -/
theorem hasShape_backOf {pair : Field × Value} (h : HasShape pair.1.shape pair.2)
    (hread : HasShape pair.1.shape (readOf pair)) :
    HasShape pair.1.shape (backOf readOf pair) := by
  unfold backOf
  split
  · exact h
  · exact hread

/-- A field that comes back, or is left out, is equal to what it was. -/
theorem same_backOf {pair : Field × Value} (hread : (readOf pair).same pair.2 = true) :
    (backOf readOf pair).same pair.2 = true := by
  unfold backOf
  split
  · next homits =>
    obtain ⟨d, -, hvalue⟩ := eq_toValue_of_omits homits
    rw [hvalue, same_toValue]
  · exact hread

/-- The fields that were kept, in any order, determine the values of all. -/
theorem fieldValues_kept (hnodup : (pairs.map fun pair => pair.1.name).Nodup)
    (hkept : kept.Perm (pairs.filter fun pair => !pair.1.omits pair.2)) :
    fieldValues (kept.map fun pair => (pair.1.name, readOf pair)) (pairs.map Prod.fst) =
      .ok (pairs.map (backOf readOf)) := by
  have hmem : ∀ {pair}, pair ∈ kept ↔ pair ∈ pairs ∧ pair.1.omits pair.2 = false := by
    intro pair
    rw [hkept.mem_iff, List.mem_filter, Bool.not_eq_true']
  have hkeptNodup : (kept.map fun pair => pair.1.name).Nodup := by
    rw [(hkept.map _).nodup_iff]
    exact hnodup.sublist (List.filter_sublist.map _)
  refine fieldValues_map fun pair hpair => ?_
  by_cases homits : pair.1.omits pair.2 = true
  · obtain ⟨d, hd, hvalue⟩ := eq_toValue_of_omits homits
    have hout : pair.1.name ∉
        (kept.map fun pair => (pair.1.name, readOf pair)).map Prod.fst := by
      rw [List.map_map]
      intro hname
      obtain ⟨other, hother, heq⟩ := List.mem_map.1 hname
      obtain ⟨hmember, hkeeps⟩ := hmem.1 hother
      rw [List.inj_on_of_nodup_map hnodup hmember hpair heq, homits] at hkeeps
      contradiction
    rw [fieldValue?_of_not_mem hout, backOf, if_pos homits, hd, hvalue]
    rfl
  · have hin := hmem.2 ⟨hpair, Bool.eq_false_of_not_eq_true homits⟩
    rw [backOf, if_neg homits]
    refine fieldValue?_of_mem (by rwa [List.map_map]) ?_
    exact List.mem_map_of_mem (f := fun pair => (pair.1.name, readOf pair)) hin

end Fields

/-- A record comes back when its fields do; those with their default are left out and put in again.
-/
theorem comesBack_record {type : RecordType} {pairs : List (Field × Value)}
    (hfields : pairs.map Prod.fst = type.fields)
    (hshape : ∀ pair ∈ pairs, HasShape pair.1.shape pair.2)
    (h : ∀ pair ∈ pairs, ComesBack pair.1.shape pair.2) :
    ComesBack (.record type) (.record type (pairs.map Prod.snd)) := by
  choose! plainOf textOf documentOf readOf h using h
  have hnodup : (pairs.map fun pair => pair.1.name).Nodup := by
    have hnames := type.nodup_fieldNames
    rwa [RecordType.fieldNames, ← hfields, List.map_map] at hnames
  obtain ⟨kept, hkept⟩ : ∃ kept, kept = pairs.filter fun pair => !pair.1.omits pair.2 := ⟨_, rfl⟩
  have hkeptMem : ∀ pair ∈ kept, pair ∈ pairs := by
    intro pair hpair
    rw [hkept] at hpair
    exact List.mem_of_mem_filter hpair
  obtain ⟨sorted, text, hperm, hwritten, hspells⟩ :=
    exists_spells_map (fun pair : Field × Value => pair.1.name)
      (fun pair hpair => (h pair (hkeptMem pair hpair)).written)
      fun pair hpair => (h pair (hkeptMem pair hpair)).spells
  have hmem : ∀ pair ∈ sorted, pair ∈ pairs := fun pair hpair =>
    hkeptMem pair (hperm.mem_iff.1 hpair)
  have hplain : (Value.record type (pairs.map Prod.snd)).plain true =
      .ok (.map (kept.map fun pair => (.text pair.1.name, plainOf pair))) := by
    rw [plain, ← hfields, plainFields_map fun pair hpair => (h pair hpair).plain, ← hkept]
    rfl
  have hvalues : fieldValues (sorted.map fun pair => (pair.1.name, readOf pair)) type.fields =
      .ok (pairs.map (backOf readOf)) := by
    rw [← hfields]
    exact fieldValues_kept hnodup (hkept ▸ hperm)
  have hdecoded : ∀ places, decode (.record type) places
      (.object (sorted.map fun pair => (pair.1.name, documentOf pair)) none) =
        .ok (.record type (pairs.map (backOf readOf))) := fun places =>
    decode_record (fun pair hpair => hfields ▸ List.mem_map_of_mem (hmem pair hpair))
      (fun pair hpair => (h pair (hmem pair hpair)).decoded) hvalues
  have hshaped : HasFields type.fields (pairs.map (backOf readOf)) := by
    rw [← hfields]
    exact hasFields_map fun pair hpair =>
      hasShape_backOf (hshape pair hpair) (h pair hpair).shaped
  have hsame : sameItems (pairs.map (backOf readOf)) (pairs.map Prod.snd) = true :=
    sameItems_map fun pair hpair => same_backOf (h pair hpair).same
  refine ⟨_, _, _, _, hplain, hwritten, hspells, hdecoded, .record hshaped, ?_⟩
  rw [same, hsame, decide_eq_true rfl]
  rfl

/-! ## Values of a shape -/

mutual

/-- A value of a shape comes back. -/
theorem comesBack {shape : Shape} {v : Value} : HasShape shape v → v.HasNumerals →
    ComesBack shape v
  | .bool b, _ => comesBack_bool b
  | .int _, hn => comesBack_int hn
  | .text s, _ => comesBack_text s
  | .member m rfl, _ => comesBack_member m
  | .nothing shape, _ => comesBack_null shape
  | .present h, hn => (comesBack h hn).optional
  | .record h, hn => by
    obtain ⟨pairs, hfields, rfl, hshape, hback⟩ :=
      comesBack_fields h fun v hv => hn.of_mem_record hv
    exact comesBack_record hfields hshape hback
  | .sequence h, hn => comesBack_sequence fun v hv => comesBack (h v hv) (hn.of_mem_tuple hv)
  | .map hdistinct h, hn => comesBack_map hdistinct fun entry hentry =>
    comesBack (h entry hentry) (hn.of_mem_map (List.mem_map_of_mem hentry))

/-- The values of fields come back one after another. -/
theorem comesBack_fields {fields : List Field} {values : List Value} : HasFields fields values →
    (∀ v ∈ values, v.HasNumerals) →
    ∃ pairs : List (Field × Value), pairs.map Prod.fst = fields ∧ values = pairs.map Prod.snd ∧
      (∀ pair ∈ pairs, HasShape pair.1.shape pair.2) ∧
        ∀ pair ∈ pairs, ComesBack pair.1.shape pair.2
  | .nil, _ => ⟨[], rfl, rfl, nofun, nofun⟩
  | @HasFields.cons field _ v _ h rest, hn => by
    obtain ⟨pairs, rfl, rfl, hshape, hback⟩ :=
      comesBack_fields rest fun v hv => hn v (List.mem_cons_of_mem _ hv)
    refine ⟨(field, v) :: pairs, rfl, rfl, ?_, ?_⟩
    · exact List.forall_mem_cons.2 ⟨h, hshape⟩
    · exact List.forall_mem_cons.2 ⟨comesBack h (hn v List.mem_cons_self), hback⟩

end

/-! ## Records from their texts -/

variable {type : RecordType}

/-- A text is read as a record when the document that it spells is decoded as one. -/
theorem ofJson_of_spells {text : String} {d : Document} (h : Spells text d) :
    ofJson type text = decode (.record type) [] d := by
  rw [ofJson, h.read_eq]
  change (decode (.record type) [] d).bind Except.ok = _
  cases decode (.record type) [] d <;> rfl

/-- A classification of one unit; some of the fields inside have their defaults. -/
def oneUnit : Value :=
  .record .classification
    [.map [(.text "/a.rpm", .member (.outcome .unbuilt))],
      .map [(.text "/a.rpm", .record .node
        [.int (-7), .member (.kind .build), .member (.state .build),
        .record .package [.text "a", .text "", .text "", .text "", .text ""], .text "/a.rpm",
        .text "", .text "noarch"])],
      .map [], .tuple []]

/-- The classification of one unit has its shape. -/
theorem hasShape_oneUnit : HasShape (.record .classification) oneUnit := by
  refine .record (.cons ?outcomes (.cons ?nodes (.cons ?failures (.cons (.sequence nofun) .nil))))
  case outcomes =>
    refine @HasShape.map _ [("/a.rpm", .member (.outcome .unbuilt))] (by decide) ?_
    exact List.forall_mem_singleton.2 (.member _ rfl)
  case nodes =>
    refine @HasShape.map _ [("/a.rpm", .record .node _)] (by decide) ?_
    refine List.forall_mem_singleton.2 (.record ?_)
    exact .cons (.int _) (.cons (.member _ rfl) (.cons (.member _ rfl) (.cons
      (hasShape_package_iff.2 ⟨_, _, _, _, _, rfl⟩) (.cons (.text _) (.cons (.text _) (.cons
        (.text _) .nil))))))
  case failures => exact @HasShape.map _ [] (by decide) nofun

/-- The text of a line. -/
theorem written_plain_line (n : Int) (s : String) :
    ∃ plainForm, (Value.record .line [.int n, .text s]).plain true = .ok plainForm ∧
      plainForm.written = .ok ("\x7b" ++ Text.joined ", "
        [Json.string "level" ++ ": " ++ integerText n,
          Json.string "text" ++ ": " ++ Json.string s] ++ "\x7d") := by
  refine ⟨.map [(.text "level", .int n), (.text "text", .text s)], rfl, ?_⟩
  have horder : inOrder Prod.fst [("level", (.ok (integerText n) : Except Value.Fault String)),
      ("text", .ok (Json.string s))] = [("level", .ok (integerText n)),
        ("text", .ok (Json.string s))] :=
    List.mergeSort_of_pairwise (by simp; decide)
  have hsorted := sortEntries_map_text Prod.fst Prod.snd
    [("level", (.ok (integerText n) : Except Value.Fault String)), ("text", .ok (Json.string s))]
  rw [horder] at hsorted
  change writtenMap _ = _
  rw [writtenMap]
  exact Attempt.bind_eq_ok_iff.2 ⟨_, hsorted, rfl⟩

/-- A line whose level has a numeral that is too long is written but not read. -/
theorem ofJson_line_of_long {n : Int} (h : digitLimit < (integerDigits n).length)
    (s : String) :
    ofJson .line ("\x7b" ++ Text.joined ", " [Json.string "level" ++ ": " ++ integerText n,
        Json.string "text" ++ ": " ++ Json.string s] ++ "\x7d") =
      .error (.integerRange [.field "level"]) := by
  have hdocument : integerDocument n = .longInt n := if_pos h
  have hentries : ∀ entry ∈ [("level", integerText n, Document.longInt n),
      ("text", Json.string s, .text s)], Spells entry.2.1 entry.2.2 := by
    refine List.forall_mem_cons.2 ⟨hdocument ▸ spells_integer n, ?_⟩
    exact List.forall_mem_singleton.2 (spells_string s)
  exact ofJson_of_spells (spells_object Prod.fst hentries)

/-- The sign of a numeral is one more character. -/
theorem length_integerDigits_neg_pow (k : Nat) :
    (integerDigits (-(10 ^ k : Nat))).length = k + 2 := by
  have hneg : (-(10 ^ k : Nat) : Int) < 0 :=
    Int.neg_neg_of_pos (Int.natCast_pos.2 (Nat.pow_pos (by decide)))
  rw [integerDigits, if_pos hneg, Int.natAbs_neg, Int.natAbs_natCast, List.length_cons,
    ← Nat.pow_eq, length_naturalDigits_pow]

end Record

end PackageBuild
