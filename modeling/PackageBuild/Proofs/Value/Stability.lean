import PackageBuild.Proofs.Value.PlainForm

/-!
# Stable order

Values that differ only in the order in which the entries of their maps and the members of their
sets come, at whatever depth, have one plain form.  Whether a field is left out does not depend on
an order either, so that rearranged records keep the same fields.

Main results:

- Theorem `Rearranged.omits_eq`: rearranged values are defaults of the same fields.
- Theorem `Rearranged.plain_eq`: rearranged values have one plain form, or none for one reason.
- Theorem `plain_stable`: the plain form of a value has the ordered look and does not depend on an
  order.
-/

namespace PackageBuild.Value

variable {textKeys : Bool} {v w : Value}

/-! ## Values that differ in order only -/

/-- Values of the same contents: entries of maps and members of sets may stand in another order at
any depth, and a member of a choice may stand for its text. -/
inductive Rearranged : Value → Value → Prop
  | refl (v : Value) : Rearranged v v
  | trans {u v w : Value} (h : Rearranged u v) (h' : Rearranged v w) : Rearranged u w
  | text {v w : Value} {s : String} (hv : asText? v = some s) (hw : asText? w = some s) :
      Rearranged v w
  | entries {entries others : List (Value × Value)} (h : entries.Perm others) :
      Rearranged (.map entries) (.map others)
  | members {members others : List Value} (h : members.Perm others) :
      Rearranged (.set members) (.set others)
  | entry (before after : List (Value × Value)) {k l v w : Value} (hkey : Rearranged k l)
      (h : Rearranged v w) :
      Rearranged (.map (before ++ (k, v) :: after)) (.map (before ++ (l, w) :: after))
  | member (before after : List Value) {v w : Value} (h : Rearranged v w) :
      Rearranged (.set (before ++ v :: after)) (.set (before ++ w :: after))
  | item (before after : List Value) {v w : Value} (h : Rearranged v w) :
      Rearranged (.list (before ++ v :: after)) (.list (before ++ w :: after))
  | part (before after : List Value) {v w : Value} (h : Rearranged v w) :
      Rearranged (.tuple (before ++ v :: after)) (.tuple (before ++ w :: after))
  | field (type : RecordType) (before after : List Value) {v w : Value} (h : Rearranged v w) :
      Rearranged (.record type (before ++ v :: after)) (.record type (before ++ w :: after))

/-- Values of the same contents count as the same text. -/
theorem Rearranged.asText?_eq (h : Rearranged v w) : asText? v = asText? w := by
  induction h with
  | trans _ _ ih ih' => exact ih.trans ih'
  | text hv hw => exact hv.trans hw.symm
  | _ => rfl

/-- Whether a default matches depends on the text alone that a value counts as. -/
theorem matchesValue_of_asText? {s : String} (h : asText? v = some s) (d : Default) :
    d.matchesValue v = d.matchesValue (.text s) := by
  cases v with
  | text t => cases h; rfl
  | member m =>
    cases h
    have hne : m.text ≠ "" := by
      rcases m with k | k | k <;> cases k <;> decide
    cases d <;> simp [Default.matchesValue, hne]
  | _ => contradiction

/-- Whether a field holds its default does not depend on an order. -/
theorem Rearranged.matchesValue_eq (h : Rearranged v w) (d : Default) :
    d.matchesValue v = d.matchesValue w := by
  induction h with
  | refl => rfl
  | trans _ _ ih ih' => exact ih.trans ih'
  | text hv hw => rw [matchesValue_of_asText? hv, matchesValue_of_asText? hw]
  | part before after _ _ => cases d <;> cases before <;> rfl
  | entries | members | entry | member | item | field => cases d <;> rfl

/-- A field is left out for both of two values of the same contents, or for neither. -/
theorem Rearranged.omits_eq (h : Rearranged v w) (field : Field) :
    field.omits v = field.omits w := by
  unfold Field.omits
  cases field.default? with
  | none => rfl
  | some d => exact h.matchesValue_eq d

/-- The items of a list are of the same kind. -/
theorem TextKeyed.item {items : List Value} (h : TextKeyed (.list items)) :
    ∀ item ∈ items, TextKeyed item := by
  cases h with
  | scalar h => contradiction
  | list h => exact h

/-- The items of a tuple are of the same kind. -/
theorem TextKeyed.part {items : List Value} (h : TextKeyed (.tuple items)) :
    ∀ item ∈ items, TextKeyed item := by
  cases h with
  | scalar h => contradiction
  | tuple h => exact h

/-- The parts of a record are of the same kind. -/
theorem TextKeyed.field {type : RecordType} {values : List Value}
    (h : TextKeyed (.record type values)) : ∀ v ∈ values, TextKeyed v := by
  cases h with
  | scalar h => contradiction
  | record h => exact h

/-- What is required of a set: different texts. -/
theorem textKeyed_set_iff {items : List Value} :
    TextKeyed (.set items) ↔
      (∀ item ∈ items, ∃ s, asText? item = some s) ∧ (items.map keyText).Nodup := by
  constructor
  · intro h
    cases h with
    | scalar h => contradiction
    | set htexts hdistinct => exact ⟨htexts, hdistinct⟩
  · exact fun ⟨htexts, hdistinct⟩ => .set htexts hdistinct

/-- What is required of a map: keys that are different texts, and values of the same kind. -/
theorem textKeyed_map_iff {entries : List (Value × Value)} :
    TextKeyed (.map entries) ↔ (∀ entry ∈ entries, ∃ s, asText? entry.1 = some s) ∧
      (entries.map fun entry => keyText entry.1).Nodup ∧ ∀ entry ∈ entries, TextKeyed entry.2 := by
  constructor
  · intro h
    cases h with
    | scalar h => contradiction
    | map hkeys hdistinct h => exact ⟨hkeys, hdistinct, h⟩
  · exact fun ⟨hkeys, hdistinct, h⟩ => .map hkeys hdistinct h

/-- An item may be replaced by one that has the property as well. -/
theorem forall_mem_replace {α : Type} {p : α → Prop} {before after : List α} {a b : α}
    (h : ∀ x ∈ before ++ a :: after, p x) (hb : p a → p b) : ∀ x ∈ before ++ b :: after, p x := by
  rw [List.forall_mem_append, List.forall_mem_cons] at h ⊢
  exact ⟨h.1, hb h.2.1, h.2.2⟩

/-- A part of a record may be replaced by one that is left out alike and has the same plain form. -/
theorem plainFields_replace (fields : List Field) (before after : List Value)
    (homits : ∀ field : Field, field.omits v = field.omits w)
    (hplain : plain textKeys v = plain textKeys w) :
    plainFields textKeys fields (before ++ v :: after) =
      plainFields textKeys fields (before ++ w :: after) := by
  induction before generalizing fields with
  | nil =>
    cases fields with
    | nil => rfl
    | cons field fields =>
      rw [List.nil_append, List.nil_append, plainFields, plainFields, homits, hplain]
  | cons u before ih =>
    cases fields with
    | nil => rfl
    | cons field fields => rw [List.cons_append, List.cons_append, plainFields, plainFields, ih]

/-- The order of the entries of a map does not matter. -/
theorem TextKeyed.map_perm {entries others : List (Value × Value)} (h : TextKeyed (.map entries))
    (hperm : entries.Perm others) : TextKeyed (.map others) := by
  obtain ⟨hkeys, hdistinct, hvalues⟩ := textKeyed_map_iff.1 h
  exact .map (fun entry hentry => hkeys entry (hperm.mem_iff.2 hentry))
    ((hperm.map fun entry => keyText entry.1).nodup_iff.1 hdistinct)
    (fun entry hentry => hvalues entry (hperm.mem_iff.2 hentry))

/-- The order of the entries of a map does not matter for its plain form. -/
theorem plain_map_perm {entries others : List (Value × Value)} (h : TextKeyed (.map entries))
    (hperm : entries.Perm others) :
    plain textKeys (.map entries) = plain textKeys (.map others) := by
  obtain ⟨hkeys, hdistinct, hvalues⟩ := textKeyed_map_iff.1 h
  obtain ⟨hkeys', hdistinct', -⟩ := textKeyed_map_iff.1 (h.map_perm hperm)
  have hfault : ∀ entry ∈ entries, ∀ fault, plainMember textKeys entry = .error fault →
      fault = .noPlainForm "complex" := fun entry hentry fault herror =>
    (hvalues entry hentry).convertsUnlessComplex.fault_eq (Attempt.map_eq_error_iff.1 herror)
  have hmembers := Attempt.mapM_perm hperm hfault
  rw [plain_map hkeys hdistinct, plain_map hkeys' hdistinct']
  cases hall : entries.mapM (plainMember textKeys) with
  | ok members =>
    rw [← map_fst_of_plainMembers hall] at hdistinct
    rw [hall] at hmembers
    generalize others.mapM (plainMember textKeys) = attempt at hmembers ⊢
    cases hmembers with
    | ok hsame =>
      change Except.ok (sortedMap members) = Except.ok (sortedMap _)
      rw [sortedMap, sortedMap, inOrder_eq_of_perm hsame hdistinct]
  | error fault =>
    rw [hall] at hmembers
    generalize others.mapM (plainMember textKeys) = attempt at hmembers ⊢
    cases hmembers with
    | error => rfl

/-- An entry of a map may be replaced by one with the same text and the same plain form. -/
theorem plain_map_replace (before after : List (Value × Value)) {k l : Value}
    (h : TextKeyed (.map (before ++ (k, v) :: after))) (hkey : asText? k = asText? l)
    (hvalue : TextKeyed w) (hplain : ∀ textKeys, plain textKeys v = plain textKeys w) :
    TextKeyed (.map (before ++ (l, w) :: after)) ∧ ∀ textKeys,
      plain textKeys (.map (before ++ (k, v) :: after)) =
        plain textKeys (.map (before ++ (l, w) :: after)) := by
  obtain ⟨hkeys, hdistinct, hvalues⟩ := textKeyed_map_iff.1 h
  have htext : keyText k = keyText l := by rw [keyText, keyText, hkey]
  have hkeys' : ∀ entry ∈ before ++ (l, w) :: after, ∃ s, asText? entry.1 = some s :=
    forall_mem_replace hkeys fun hk => hkey ▸ hk
  have hdistinct' : ((before ++ (l, w) :: after).map fun entry => keyText entry.1).Nodup := by
    simpa only [List.map_append, List.map_cons, htext] using hdistinct
  refine ⟨.map hkeys' hdistinct' (forall_mem_replace hvalues fun _ => hvalue), fun textKeys => ?_⟩
  have hmember : plainMember textKeys (k, v) = plainMember textKeys (l, w) := by
    rw [plainMember, plainMember, htext, hplain textKeys]
  rw [plain_map hkeys hdistinct, plain_map hkeys' hdistinct', Attempt.mapM_replace hmember]

/-- The plain form of a set is known from its texts. -/
theorem plain_set_congr {items others : List Value} (h : TextKeyed (.set items))
    (htexts' : ∀ item ∈ others, ∃ s, asText? item = some s)
    (hperm : (items.map keyText).Perm (others.map keyText)) :
    TextKeyed (.set others) ∧ ∀ textKeys,
      plain textKeys (.set items) = plain textKeys (.set others) := by
  obtain ⟨htexts, hdistinct⟩ := textKeyed_set_iff.1 h
  refine ⟨.set htexts' (hperm.nodup_iff.1 hdistinct), fun textKeys => ?_⟩
  rw [plain_set htexts, plain_set htexts', inOrder_eq_of_perm hperm (by rwa [List.map_id])]

/-- Values that differ in order only have one plain form. -/
theorem Rearranged.plain_eq (h : Rearranged v w) (hv : TextKeyed v) :
    TextKeyed w ∧ ∀ textKeys, plain textKeys v = plain textKeys w := by
  induction h with
  | refl => exact ⟨hv, fun _ => rfl⟩
  | trans _ _ ih ih' =>
    obtain ⟨hmiddle, hfirst⟩ := ih hv
    obtain ⟨hlast, hsecond⟩ := ih' hmiddle
    exact ⟨hlast, fun textKeys => (hfirst textKeys).trans (hsecond textKeys)⟩
  | @text v w s hs hs' =>
    refine ⟨.scalar ?_, fun textKeys => by rw [plain_of_asText? hs, plain_of_asText? hs']⟩
    cases w <;> first | rfl | contradiction
  | entries hperm => exact ⟨hv.map_perm hperm, fun _ => plain_map_perm hv hperm⟩
  | members hperm =>
    obtain ⟨htexts, -⟩ := textKeyed_set_iff.1 hv
    exact plain_set_congr hv (fun item hitem => htexts item (hperm.mem_iff.2 hitem))
      (hperm.map keyText)
  | @entry before after k l v w hkey _ _ ih =>
    obtain ⟨-, -, hvalues⟩ := textKeyed_map_iff.1 hv
    obtain ⟨hvalue, hplain⟩ := ih (hvalues (k, v) (by simp))
    exact plain_map_replace before after hv hkey.asText?_eq hvalue hplain
  | @member before after v w h _ =>
    obtain ⟨htexts, -⟩ := textKeyed_set_iff.1 hv
    have hsame : (before ++ v :: after).map keyText = (before ++ w :: after).map keyText := by
      rw [List.map_append, List.map_append, List.map_cons, List.map_cons, keyText, keyText,
        h.asText?_eq]
    exact plain_set_congr hv (forall_mem_replace htexts fun hv => h.asText?_eq ▸ hv)
      (List.Perm.of_eq hsame)
  | item before after _ ih =>
    have hitems := hv.item
    obtain ⟨hitem, hplain⟩ := ih (hitems _ (by simp))
    refine ⟨.list (forall_mem_replace hitems fun _ => hitem), fun textKeys => ?_⟩
    rw [plain, plain, plainItems_eq_mapM, plainItems_eq_mapM,
      Attempt.mapM_replace (hplain textKeys)]
  | part before after _ ih =>
    have hitems := hv.part
    obtain ⟨hitem, hplain⟩ := ih (hitems _ (by simp))
    refine ⟨.tuple (forall_mem_replace hitems fun _ => hitem), fun textKeys => ?_⟩
    rw [plain, plain, plainItems_eq_mapM, plainItems_eq_mapM,
      Attempt.mapM_replace (hplain textKeys)]
  | field type before after h ih =>
    have hvalues := hv.field
    obtain ⟨hvalue, hplain⟩ := ih (hvalues _ (by simp))
    refine ⟨.record (forall_mem_replace hvalues fun _ => hvalue), fun textKeys => ?_⟩
    rw [plain, plain, plainFields_replace _ before after h.omits_eq (hplain textKeys)]

/-- Rearranged values have one plain form, in which the keys of maps strictly ascend and the fields
of records stand in the order of the schema without those that hold their default; only a complex
number keeps a value from its plain form. -/
theorem plain_stable (hv : TextKeyed v) (h : Rearranged v w) (textKeys : Bool) :
    plain textKeys v = plain textKeys w ∧
      ((∃ result, plain textKeys v = .ok result ∧ Converts v result) ∨
        HoldsComplex v ∧ plain textKeys v = .error (.noPlainForm "complex")) :=
  ⟨(h.plain_eq hv).2 textKeys, hv.convertsUnlessComplex⟩

/-- The counts of two outcomes, one of them under its written form, and a set of files. -/
def countsFirst : Value :=
  .map [(.text "files", .set [.text "b.rpm", .text "a.rpm"]), (.member (.outcome .failed), .int 1),
    (.text "Built", .int 2)]

/-- The same in another order, with both outcomes as members. -/
def countsLast : Value :=
  .map [(.member (.outcome .failed), .int 1), (.member (.outcome .built), .int 2),
    (.text "files", .set [.text "a.rpm", .text "b.rpm"])]

theorem textKeyed_countsFirst : TextKeyed countsFirst := by
  refine .map ?_ (by decide) ?_
  · simp [asText?]
  · simp only [List.forall_mem_cons, List.not_mem_nil, false_implies, implies_true, and_true]
    exact ⟨.set (by simp [asText?]) (by decide), .scalar rfl, .scalar rfl⟩

/-- The two values differ in the order of entries and of members. -/
theorem rearranged_counts : Rearranged countsFirst countsLast := by
  have hfiles : Rearranged countsFirst
      (.map [(.text "files", .set [.text "a.rpm", .text "b.rpm"]),
        (.member (.outcome .failed), .int 1), (.text "Built", .int 2)]) :=
    .entry [] _ (.refl _) (.members (List.Perm.swap _ _ _))
  have hbuilt : Rearranged
      (.map [(.text "files", .set [.text "a.rpm", .text "b.rpm"]),
        (.member (.outcome .failed), .int 1), (.text "Built", .int 2)])
      (.map [(.text "files", .set [.text "a.rpm", .text "b.rpm"]),
        (.member (.outcome .failed), .int 1), (.member (.outcome .built), .int 2)]) :=
    .entry [_, _] [] (.text rfl rfl) (.refl _)
  have hrotated : Rearranged
      (.map [(.text "files", .set [.text "a.rpm", .text "b.rpm"]),
        (.member (.outcome .failed), .int 1), (.member (.outcome .built), .int 2)]) countsLast :=
    .entries (@List.perm_append_comm _ [_] _)
  exact hfiles.trans (hbuilt.trans hrotated)

/-- Both have one plain form. -/
theorem plain_stable_counts :
    ∃ result, plain true countsFirst = .ok result ∧ plain true countsLast = .ok result ∧
      Converts countsFirst result := by
  have hreal : ¬ HoldsComplex countsFirst := by
    intro h
    cases h with
    | map hentry h =>
      simp only [List.mem_cons, List.not_mem_nil, or_false] at hentry
      rcases hentry with rfl | rfl | rfl <;> cases h
  obtain ⟨hsame, ⟨result, hresult, hconverts⟩ | ⟨hcomplex, -⟩⟩ :=
    plain_stable textKeyed_countsFirst rearranged_counts true
  · exact ⟨result, hresult, hsame ▸ hresult, hconverts⟩
  · exact absurd hcomplex hreal

/-! ## Equal to a default -/

/-- A field holds a value that is equal to its default. -/
def equalsDefault (field : Field) (v : Value) : Bool :=
  match field.default? with
  | none => false
  | some d => v.same d.toValue

/-- The parts of a result with a zero for its use of nothing from before. -/
def zeroParts : List Value :=
  [.record .node [.int 1, .member (.kind .build), .member (.state .build),
      .record .package [.text "p", .text "", .text "", .text "", .text ""], .text "/s/p.srpm",
      .text "", .text ""],
    .null, .text "", .tuple [], .int 0, .bool false, .bool false]

/-- The zero is kept, although it equals the default of its field. -/
theorem plain_keeps_zero :
    ∃ entries, plain true (.record .result zeroParts) = .ok (.map entries) ∧
      entries.map Prod.fst = [.text "node", .text "used_cache"] ∧
      ((RecordType.result.fields.zip zeroParts).filter fun part =>
        !equalsDefault part.1 part.2).map (fun part => part.1.name) = ["node"] :=
  ⟨_, rfl, rfl, by decide⟩

end PackageBuild.Value
