import PackageBuild.Proofs.Value.Canonical

/-!
# What plain forms look like

The plain form of a value is made of those of its parts, and three rules order them: a map has its
keys in ascending order, a set is listed in ascending order, and a record has its fields as the
schema names them, without those that hold their default.  A value of such parts has a plain form
unless a complex number stands in it.

Main results:

- Theorems `plain_set`, `plain_map` and `plainFields_eq_mapM`: the plain forms of sets, maps and
  records part by part.
- Theorem `TextKeyed.convertsUnlessComplex`: a value has a plain form of the ordered look, or a
  complex number in it keeps it from one.
-/

namespace PackageBuild.Value

variable {textKeys : Bool} {v w : Value}

/-! ## Plain forms part by part -/

/-- The plain form of what counts as a text is that text. -/
theorem plain_of_asText? {s : String} (h : asText? v = some s) :
    plain textKeys v = .ok (.text s) := by
  cases v <;> simp_all [asText?, plain]

/-- The plain forms of items are made one by one. -/
theorem plainItems_eq_mapM (items : List Value) :
    plainItems textKeys items = items.mapM (plain textKeys) := by
  induction items with
  | nil => rfl
  | cons v rest ih => rw [plainItems, List.mapM_cons, ih]

/-- The plain forms of members of a set are attempted one by one. -/
theorem plainAttempts_eq_map (items : List Value) :
    plainAttempts textKeys items = items.map fun v => (v, plain textKeys v) := by
  induction items with
  | nil => rfl
  | cons v rest ih => rw [plainAttempts, ih, List.map_cons]

/-- The plain form of a set of texts lists them in order. -/
theorem plain_set {items : List Value} (h : ∀ item ∈ items, ∃ s, asText? item = some s) :
    plain textKeys (.set items) = .ok (.list ((inOrder id (items.map keyText)).map .text)) := by
  have htexts : ∀ item ∈ items, asText? item = some (keyText item) :=
    fun item hitem => asText?_eq_keyText (h item hitem)
  have hsorted : (inOrder keyText items).map keyText = inOrder id (items.map keyText) :=
    List.map_mergeSort fun _ _ _ _ => rfl
  have hforms : ((inOrder keyText items).map fun v => (v, plain textKeys v)).mapM Prod.snd =
      .ok ((inOrder keyText items).map fun v => .text (keyText v)) := by
    rw [List.mapM_map]
    refine Attempt.mapM_eq_ok_map fun item hitem => ?_
    exact plain_of_asText? (htexts item ((perm_inOrder keyText items).mem_iff.1 hitem))
  rw [plain, plainAttempts_eq_map, sortEntries_map htexts (plain textKeys), ← hsorted, List.map_map]
  refine Attempt.bind_eq_ok_iff.2 ⟨_, rfl, ?_⟩
  rw [hforms]
  rfl

/-- The text of a key with the plain form of its value. -/
def plainMember (textKeys : Bool) (entry : Value × Value) : Except Fault (String × Value) :=
  (plain textKeys entry.2).map (keyText entry.1, ·)

/-- The map of members in the order of their texts. -/
def sortedMap (members : List (String × Value)) : Value :=
  .map ((inOrder Prod.fst members).map fun member => (.text member.1, member.2))

/-- The members of a map keep the texts of their keys. -/
theorem map_fst_of_plainMembers {entries : List (Value × Value)} {members : List (String × Value)}
    (h : entries.mapM (plainMember textKeys) = .ok members) :
    members.map Prod.fst = entries.map fun entry => keyText entry.1 := by
  have hpairs := Attempt.mapM_eq_ok_iff.1 h
  induction hpairs with
  | nil => rfl
  | cons hfirst hrest ih =>
    obtain ⟨result, -, rfl⟩ := Attempt.map_eq_ok_iff.1 hfirst
    rw [List.map_cons, List.map_cons, ih (Attempt.mapM_eq_ok_iff.2 hrest)]

/-- The plain forms of entries are made one by one. -/
theorem plainEntries_eq_mapM {entries : List (Value × Value)}
    (hkeys : ∀ entry ∈ entries, ∃ s, asText? entry.1 = some s) :
    plainEntries textKeys entries = (entries.mapM (plainMember textKeys)).map fun members =>
      members.map fun member => (.text member.1, member.2) := by
  induction entries with
  | nil => rfl
  | cons entry rest ih =>
    obtain ⟨hkey, hrest⟩ := List.forall_mem_cons.1 hkeys
    rw [plainEntries, plain_of_asText? (asText?_eq_keyText hkey), List.mapM_cons, ih hrest,
      plainMember]
    change (plainKey textKeys _ >>= _) = _
    rw [textKey_text]
    cases plain textKeys entry.2 with
    | error e => rfl
    | ok result => cases rest.mapM (plainMember textKeys) <;> rfl

/-- The plain form of a map under different texts has them in order. -/
theorem plain_map {entries : List (Value × Value)}
    (hkeys : ∀ entry ∈ entries, ∃ s, asText? entry.1 = some s)
    (hdistinct : (entries.map fun entry => keyText entry.1).Nodup) :
    plain textKeys (.map entries) = (entries.mapM (plainMember textKeys)).map sortedMap := by
  rw [plain, plainEntries_eq_mapM hkeys]
  cases hmembers : entries.mapM (plainMember textKeys) with
  | error e => rfl
  | ok members =>
    rw [← map_fst_of_plainMembers hmembers] at hdistinct
    change plainMap _ = .ok (sortedMap members)
    rw [plainMap, ofEntries_map_text hdistinct, sortEntries_map_text]
    rfl

/-- The fields of a record that do not hold their default, with their values. -/
def kept (fields : List Field) (values : List Value) : List (Field × Value) :=
  (fields.zip values).filter fun part => !part.1.omits part.2

/-- The name of a field with the plain form of its value. -/
def plainField (textKeys : Bool) (part : Field × Value) : Except Fault (Value × Value) :=
  (plain textKeys part.2).map (.text part.1.name, ·)

/-- The plain forms of the fields that are kept are made one by one. -/
theorem plainFields_eq_mapM (fields : List Field) (values : List Value) :
    plainFields textKeys fields values = (kept fields values).mapM (plainField textKeys) := by
  induction values generalizing fields with
  | nil => cases fields <;> rfl
  | cons v rest ih =>
    cases fields with
    | nil => rfl
    | cons field fields =>
      rw [plainFields, kept, List.zip_cons_cons, List.filter_cons]
      cases homits : field.omits v with
      | true => exact ih fields
      | false =>
        rw [ih fields, Bool.not_false, if_pos rfl, List.mapM_cons, plainField, kept]
        cases plain textKeys v <;> rfl

/-! ## Values and their plain forms -/

/-- A value is no collection and no record. -/
def isScalar : Value → Bool
  | list _ | tuple _ | set _ | map _ | record .. => false
  | _ => true

/-- Values made of scalars with lists, tuples and records, with sets of different texts, and with
maps under different texts. -/
inductive TextKeyed : Value → Prop
  | scalar {v : Value} (h : v.isScalar = true) : TextKeyed v
  | list {items : List Value} (h : ∀ item ∈ items, TextKeyed item) : TextKeyed (.list items)
  | tuple {items : List Value} (h : ∀ item ∈ items, TextKeyed item) : TextKeyed (.tuple items)
  | set {items : List Value} (htexts : ∀ item ∈ items, ∃ s, asText? item = some s)
      (hdistinct : (items.map keyText).Nodup) : TextKeyed (.set items)
  | map {entries : List (Value × Value)} (hkeys : ∀ entry ∈ entries, ∃ s, asText? entry.1 = some s)
      (hdistinct : (entries.map fun entry => keyText entry.1).Nodup)
      (h : ∀ entry ∈ entries, TextKeyed entry.2) : TextKeyed (.map entries)
  | record {type : RecordType} {values : List Value} (h : ∀ v ∈ values, TextKeyed v) :
      TextKeyed (.record type values)

/-- A complex number stands somewhere in a value. -/
inductive HoldsComplex : Value → Prop
  | complex (re im : Number.Binary64) : HoldsComplex (.complex re im)
  | list {items : List Value} {v : Value} (hv : v ∈ items) (h : HoldsComplex v) :
      HoldsComplex (.list items)
  | tuple {items : List Value} {v : Value} (hv : v ∈ items) (h : HoldsComplex v) :
      HoldsComplex (.tuple items)
  | map {entries : List (Value × Value)} {entry : Value × Value} (hentry : entry ∈ entries)
      (h : HoldsComplex entry.2) : HoldsComplex (.map entries)
  | record {type : RecordType} {values : List Value} {v : Value} (hv : v ∈ values)
      (h : HoldsComplex v) : HoldsComplex (.record type values)

/-- What the plain form of a value looks like: the keys of a map strictly ascend, the fields of a
record stand in the order of its schema without those that hold their default, and the members of a
set are listed in strictly ascending order. -/
inductive Converts : Value → Value → Prop
  | scalar {v result : Value} (hscalar : v.isScalar = true)
      (h : ∀ textKeys, plain textKeys v = .ok result) : Converts v result
  | list {items results : List Value} (h : List.Forall₂ Converts items results) :
      Converts (.list items) (.list results)
  | tuple {items results : List Value} (h : List.Forall₂ Converts items results) :
      Converts (.tuple items) (.tuple results)
  | set {items : List Value} {texts : List String} (htexts : texts.Perm (items.map keyText))
      (hascending : texts.Pairwise (· < ·)) : Converts (.set items) (.list (texts.map .text))
  | map {entries : List (Value × Value)} {members sorted : List (String × Value)}
      (hkeys : members.map Prod.fst = entries.map fun entry => keyText entry.1)
      (h : List.Forall₂ Converts (entries.map Prod.snd) (members.map Prod.snd))
      (hsorted : sorted.Perm members) (hascending : (sorted.map Prod.fst).Pairwise (· < ·)) :
      Converts (.map entries) (.map (sorted.map fun member => (.text member.1, member.2)))
  | record {type : RecordType} {values : List Value} {results : List (Value × Value)}
      (hnames : results.map Prod.fst = (kept type.fields values).map fun part => .text part.1.name)
      (h : List.Forall₂ Converts ((kept type.fields values).map Prod.snd) (results.map Prod.snd)) :
      Converts (.record type values) (.map results)

/-- A value has a plain form of the ordered look, or a complex number in it keeps it from one. -/
def ConvertsUnlessComplex (textKeys : Bool) (v : Value) : Prop :=
  (∃ result, plain textKeys v = .ok result ∧ Converts v result) ∨
    HoldsComplex v ∧ plain textKeys v = .error (.noPlainForm "complex")

/-- Only a complex number keeps a value from a plain form. -/
theorem ConvertsUnlessComplex.fault_eq (h : ConvertsUnlessComplex textKeys v) {fault : Fault}
    (hfault : plain textKeys v = .error fault) : fault = .noPlainForm "complex" := by
  rcases h with ⟨result, hresult, -⟩ | ⟨-, herror⟩
  · rw [hresult] at hfault
    contradiction
  · rw [herror] at hfault
    cases hfault
    rfl

/-- Scalars have a plain form unless they are complex. -/
theorem convertsUnlessComplex_of_isScalar (h : v.isScalar = true) :
    ConvertsUnlessComplex textKeys v := by
  cases v with
  | complex re im => exact .inr ⟨.complex re im, rfl⟩
  | list | tuple | set | map | record => contradiction
  | _ => exact .inl ⟨_, rfl, .scalar rfl fun _ => rfl⟩

/-- Items that have plain forms have them together, unless a complex number stands in one of them.
-/
theorem convertsUnlessComplex_items {items : List Value}
    (h : ∀ item ∈ items, ConvertsUnlessComplex textKeys item) :
    (∃ results, items.mapM (plain textKeys) = .ok results ∧ List.Forall₂ Converts items results) ∨
    (∃ item ∈ items, HoldsComplex item) ∧
      items.mapM (plain textKeys) = .error (.noPlainForm "complex") := by
  induction items with
  | nil => exact .inl ⟨[], rfl, .nil⟩
  | cons item rest ih =>
    obtain ⟨hitem, hrest⟩ := List.forall_mem_cons.1 h
    rw [List.mapM_cons]
    rcases hitem with ⟨result, hresult, hconverts⟩ | ⟨hcomplex, herror⟩
    · rw [hresult]
      rcases ih hrest with ⟨results, hresults, hall⟩ | ⟨⟨other, hother, hcomplex⟩, herror⟩
      · exact .inl ⟨result :: results, by rw [hresults]; rfl, .cons hconverts hall⟩
      · exact .inr ⟨⟨other, List.mem_cons_of_mem _ hother, hcomplex⟩, by rw [herror]; rfl⟩
    · exact .inr ⟨⟨item, List.mem_cons_self, hcomplex⟩, by rw [herror]; rfl⟩

/-- The same of items under names. -/
theorem convertsUnlessComplex_parts {γ ν : Type} {parts : List γ} {valueOf : γ → Value}
    (nameOf : γ → ν) (h : ∀ part ∈ parts, ConvertsUnlessComplex textKeys (valueOf part)) :
    (∃ results : List (ν × Value),
      parts.mapM (fun part => (plain textKeys (valueOf part)).map (nameOf part, ·)) = .ok results ∧
      results.map Prod.fst = parts.map nameOf ∧
      List.Forall₂ Converts (parts.map valueOf) (results.map Prod.snd)) ∨
    (∃ part ∈ parts, HoldsComplex (valueOf part)) ∧
      parts.mapM (fun part => (plain textKeys (valueOf part)).map (nameOf part, ·)) =
        .error (.noPlainForm "complex") := by
  have hnamed : parts.mapM (fun part => (plain textKeys (valueOf part)).map (nameOf part, ·)) =
      ((parts.map valueOf).mapM (plain textKeys)).map (parts.map nameOf).zip := by
    rw [List.mapM_map]
    exact Attempt.mapM_named nameOf parts
  rw [hnamed]
  rcases convertsUnlessComplex_items (List.forall_mem_map.2 h)
    with ⟨results, hresults, hall⟩ | ⟨hcomplex, herror⟩
  · have hlength : (parts.map nameOf).length = results.length := by
      rw [List.length_map, ← hall.length_eq, List.length_map]
    refine .inl ⟨(parts.map nameOf).zip results, by rw [hresults]; rfl, ?_, ?_⟩
    · exact List.map_fst_zip hlength.le
    · rwa [List.map_snd_zip hlength.ge]
  · obtain ⟨_, hvalue, hcomplex⟩ := hcomplex
    obtain ⟨part, hpart, rfl⟩ := List.mem_map.1 hvalue
    exact .inr ⟨⟨part, hpart, hcomplex⟩, by rw [herror]; rfl⟩

/-- The values that are kept are among those of the record. -/
theorem mem_of_mem_kept {fields : List Field} {values : List Value} {part : Field × Value}
    (h : part ∈ kept fields values) : part.2 ∈ values :=
  (List.of_mem_zip (List.mem_filter.1 h).1).2

/-- A value of such parts has a plain form of the ordered look, or a complex number in it keeps it
from one. -/
theorem TextKeyed.convertsUnlessComplex (h : TextKeyed v) : ConvertsUnlessComplex textKeys v := by
  induction h with
  | scalar h => exact convertsUnlessComplex_of_isScalar h
  | list _ ih =>
    rw [ConvertsUnlessComplex, plain, plainItems_eq_mapM]
    rcases convertsUnlessComplex_items ih
      with ⟨results, hresults, hall⟩ | ⟨⟨item, hitem, hcomplex⟩, herror⟩
    · exact .inl ⟨_, by rw [hresults]; rfl, .list hall⟩
    · exact .inr ⟨.list hitem hcomplex, by rw [herror]; rfl⟩
  | tuple _ ih =>
    rw [ConvertsUnlessComplex, plain, plainItems_eq_mapM]
    rcases convertsUnlessComplex_items ih
      with ⟨results, hresults, hall⟩ | ⟨⟨item, hitem, hcomplex⟩, herror⟩
    · exact .inl ⟨_, by rw [hresults]; rfl, .tuple hall⟩
    · exact .inr ⟨.tuple hitem hcomplex, by rw [herror]; rfl⟩
  | @set items htexts hdistinct =>
    have hascending := @pairwise_lt_inOrder _ id (items.map keyText) (by rwa [List.map_id])
    rw [List.map_id] at hascending
    exact .inl ⟨_, plain_set htexts, .set (perm_inOrder id _) hascending⟩
  | map hkeys hdistinct _ ih =>
    rw [ConvertsUnlessComplex, plain_map hkeys hdistinct]
    rcases convertsUnlessComplex_parts (fun entry => keyText entry.1) ih with
      ⟨members, hmembers, hnames, hall⟩ | ⟨⟨entry, hentry, hcomplex⟩, herror⟩
    · rw [← hnames] at hdistinct
      refine .inl ⟨sortedMap members, congrArg (Except.map sortedMap) hmembers, ?_⟩
      exact .map hnames hall (perm_inOrder Prod.fst members) (pairwise_lt_inOrder hdistinct)
    · exact .inr ⟨.map hentry hcomplex, congrArg (Except.map sortedMap) herror⟩
  | @record type values _ ih =>
    have hkept : ∀ part ∈ kept type.fields values, ConvertsUnlessComplex textKeys part.2 :=
      fun part hpart => ih part.2 (mem_of_mem_kept hpart)
    rw [ConvertsUnlessComplex, plain, plainFields_eq_mapM]
    rcases convertsUnlessComplex_parts (fun part => Value.text part.1.name) hkept with
      ⟨results, hresults, hnames, hall⟩ | ⟨⟨part, hpart, hcomplex⟩, herror⟩
    · exact .inl ⟨_, congrArg (Except.map Value.map) hresults, .record hnames hall⟩
    · exact .inr ⟨.record (mem_of_mem_kept hpart) hcomplex,
        congrArg (Except.map Value.map) herror⟩

end PackageBuild.Value
