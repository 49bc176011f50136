import PackageBuild.Proofs.Json.Printable
import PackageBuild.Proofs.Record.RoundTrip
import PackageBuild.Value.Json

/-!
# Canonical JSON

Values that are made of nothing, truth values, integers and texts with lists and maps under texts
are written in printable ASCII, and a reader of JSON gives an equal value back.  Maps that differ
only in the order in which their entries were inserted, at whatever depth, are written alike.  The
texts are those of scalar values; a pair of surrogate code points would come back as one character.

Main results:

- Theorem `IsJson.roundTrip`: such a value is written, and comes back.
- Theorem `Reordered.written_eq`: the order of insertion does not matter.
-/

namespace PackageBuild.Value

open Json (Document Printable Spells printable_joined)

/-! ## Values that JSON has forms for -/

/-- The text that a key counts as. -/
def keyText (k : Value) : String := (asText? k).getD ""

/-- The text of a key that has one. -/
theorem keyText_eq {k : Value} {s : String} (h : asText? k = some s) : keyText k = s := by
  rw [keyText, h, Option.getD_some]

/-- A key that counts as a text counts as its text. -/
theorem asText?_eq_keyText {k : Value} (h : ∃ s, asText? k = some s) :
    asText? k = some (keyText k) := by
  obtain ⟨s, hs⟩ := h
  rw [hs, keyText_eq hs]

/-- Values made of nothing, truth values, integers and texts with lists and with maps whose keys are
different texts. -/
inductive IsJson : Value → Prop
  | null : IsJson .null
  | bool (b : Bool) : IsJson (.bool b)
  | int (n : Int) : IsJson (.int n)
  | text {v : Value} {s : String} (h : asText? v = some s) : IsJson v
  | list {items : List Value} (h : ∀ item ∈ items, IsJson item) : IsJson (.list items)
  | map {entries : List (Value × Value)} (hkeys : ∀ entry ∈ entries, ∃ s, asText? entry.1 = some s)
      (hdistinct : (entries.map fun entry => keyText entry.1).Nodup)
      (h : ∀ entry ∈ entries, IsJson entry.2) : IsJson (.map entries)

/-- A value is written in printable ASCII and comes back equal. -/
structure RoundTrip (v : Value) (s : String) (d : Document) : Prop where
  written : v.written = .ok s
  printable : Printable s
  spells : Spells s d
  whole : d.isWhole = true
  same : (ofDocument d).same v = true

/-- What counts as a text is written as a string. -/
theorem written_of_asText? {v : Value} {s : String} (h : asText? v = some s) :
    written v = .ok (Json.string s) := by
  cases v <;> simp_all [asText?, written]

/-- Items are written one by one. -/
theorem writtenItems_eq_mapM (items : List Value) : writtenItems items = items.mapM written := by
  induction items with
  | nil => rfl
  | cons v rest ih => rw [writtenItems, List.mapM_cons, ih]

/-- The items of a document become values one by one. -/
theorem documentItems_eq_map (items : List Document) :
    documentItems items = items.map ofDocument := by
  induction items with
  | nil => rfl
  | cons d rest ih => rw [documentItems, ih, List.map_cons]

/-- The entries of a document become entries under texts one by one. -/
theorem documentEntries_eq_map (entries : List (String × Document)) :
    documentEntries entries = entries.map fun entry => (text entry.1, ofDocument entry.2) := by
  induction entries with
  | nil => rfl
  | cons entry rest ih => rw [documentEntries, ih, List.map_cons]

/-- A list comes back when its items do. -/
theorem roundTrip_list {items : List Value} (h : ∀ item ∈ items, ∃ s d, RoundTrip item s d) :
    ∃ s d, RoundTrip (.list items) s d := by
  choose! textOf documentOf h using h
  refine ⟨"[" ++ Text.joined ", " (items.map textOf) ++ "]", .array (items.map documentOf) none,
    ?_, ?_, Json.spells_array fun item hitem => (h item hitem).spells, ?_, ?_⟩
  · rw [written, writtenItems_eq_mapM, Attempt.mapM_eq_ok_map fun item hitem =>
      (h item hitem).written]
    rfl
  · have hparts : ∀ part ∈ items.map textOf, Printable part :=
      List.forall_mem_map.2 fun item hitem => (h item hitem).printable
    have hjoined : Printable (Text.joined ", " (items.map textOf)) :=
      printable_joined (by decide) hparts
    exact (Printable.append (by decide) hjoined).append (by decide)
  · simpa [Json.allWhole_iff] using fun item hitem => (h item hitem).whole
  · have hsame : sameItems (items.map fun item => ofDocument (documentOf item))
        (items.map id) = true :=
      sameItems_map fun item hitem => (h item hitem).same
    rw [List.map_id] at hsame
    rwa [ofDocument, documentItems_eq_map, List.map_map, same]

/-- A map whose values are written is written entry by entry in the order of its keys. -/
theorem written_of_entries {entries : List (Value × Value)}
    (hkeys : ∀ entry ∈ entries, ∃ s, asText? entry.1 = some s) {textOf : Value × Value → String}
    (h : ∀ entry ∈ entries, written entry.2 = .ok (textOf entry)) :
    written (.map entries) = .ok ("\x7b" ++ Text.joined ", "
      ((inOrder (fun entry => keyText entry.1) entries).map fun entry =>
        Json.string (keyText entry.1) ++ ": " ++ textOf entry) ++ "\x7d") := by
  have hwritten := written_map (fun entry hentry => asText?_eq_keyText (hkeys entry hentry)) h
  rwa [List.map_id'] at hwritten

/-- A map under texts comes back when its values do. -/
theorem roundTrip_map {entries : List (Value × Value)}
    (hkeys : ∀ entry ∈ entries, ∃ s, asText? entry.1 = some s)
    (h : ∀ entry ∈ entries, ∃ s d, RoundTrip entry.2 s d) :
    ∃ s d, RoundTrip (.map entries) s d := by
  choose! textOf documentOf h using h
  have hwritten := written_of_entries hkeys fun entry hentry => (h entry hentry).written
  have hperm := perm_inOrder (fun entry : Value × Value => keyText entry.1) entries
  generalize inOrder (fun entry : Value × Value => keyText entry.1) entries = sorted
    at hwritten hperm
  have hsorted : ∀ entry ∈ sorted, RoundTrip entry.2 (textOf entry) (documentOf entry) :=
    fun entry hentry => h entry (hperm.mem_iff.1 hentry)
  have hspells := Json.spells_object (fun entry => keyText entry.1) fun entry hentry =>
    (hsorted entry hentry).spells
  refine ⟨_, _, hwritten, ?_, hspells, ?_, ?_⟩
  · have hparts : ∀ part ∈ sorted.map fun entry =>
        Json.string (keyText entry.1) ++ ": " ++ textOf entry, Printable part :=
      List.forall_mem_map.2 fun entry hentry =>
        ((Json.printable_string _).append (by decide)).append (hsorted entry hentry).printable
    exact (Printable.append (by decide) (printable_joined (by decide) hparts)).append (by decide)
  · rw [Document.isWhole_object, Bool.and_eq_true, Json.allEntriesWhole_iff, List.forall_mem_map]
    exact ⟨rfl, fun entry hentry => (hsorted entry hentry).whole⟩
  · have hin : entriesIn (sorted.map fun entry =>
        (text (keyText entry.1), ofDocument (documentOf entry))) entries = true := by
      refine entriesIn_of_forall (List.forall_mem_map.2 fun entry hentry => ?_)
      have hmem := hperm.mem_iff.1 hentry
      exact ⟨entry, hmem, same_of_asText? rfl (asText?_eq_keyText (hkeys entry hmem)),
        (h entry hmem).same⟩
    rw [ofDocument, documentEntries_eq_map, List.map_map, same, List.length_map, hperm.length_eq,
      beq_self_eq_true, Bool.true_and]
    exact hin

theorem same_int (n : Int) : same (int n) (int n) = true := by
  simp [same, sameAtom, asText?, asComplex?, asReal?, Real.same, Real.compare?]

/-- A value that JSON has a form for is written and comes back. -/
theorem IsJson.roundTrip {v : Value} (h : IsJson v) : ∃ s d, RoundTrip v s d := by
  induction h with
  | null => exact ⟨_, _, rfl, by decide, Json.spells_null, rfl, rfl⟩
  | bool b =>
    refine ⟨_, _, rfl, ?_, Json.spells_bool b, rfl, ?_⟩
    · cases b <;> decide
    · cases b <;> rfl
  | int n =>
    refine ⟨_, _, rfl, Json.printable_integerText n, Json.spells_integer n, ?_, ?_⟩
    · unfold Json.integerDocument
      split <;> rfl
    · unfold Json.integerDocument
      split <;> exact same_int n
  | text h =>
    exact ⟨_, _, written_of_asText? h, Json.printable_string _, Json.spells_string _, rfl,
      same_of_asText? rfl h⟩
  | list _ ih => exact roundTrip_list ih
  | map hkeys _ _ ih => exact roundTrip_map hkeys ih

/-! ## The order of insertion -/

/-- Values of the same contents: entries of maps may stand in another order at any depth, and a
member of a choice may stand for its text. -/
inductive Reordered : Value → Value → Prop
  | refl (v : Value) : Reordered v v
  | trans {u v w : Value} (h : Reordered u v) (h' : Reordered v w) : Reordered u w
  | text {v w : Value} {s : String} (hv : asText? v = some s) (hw : asText? w = some s) :
      Reordered v w
  | item (before after : List Value) {v w : Value} (h : Reordered v w) :
      Reordered (.list (before ++ v :: after)) (.list (before ++ w :: after))
  | entry (before after : List (Value × Value)) {k l v w : Value} (hkey : Reordered k l)
      (h : Reordered v w) :
      Reordered (.map (before ++ (k, v) :: after)) (.map (before ++ (l, w) :: after))
  | order {entries others : List (Value × Value)} (h : entries.Perm others) :
      Reordered (.map entries) (.map others)

/-- The items of a list that JSON has a form for have one too. -/
theorem IsJson.item {items : List Value} (h : IsJson (.list items)) :
    ∀ item ∈ items, IsJson item := by
  cases h with
  | text h => cases h
  | list h => exact h

/-- The keys of a map are different texts, and its values have forms. -/
theorem isJson_map_iff {entries : List (Value × Value)} :
    IsJson (.map entries) ↔ (∀ entry ∈ entries, ∃ s, asText? entry.1 = some s) ∧
      (entries.map fun entry => keyText entry.1).Nodup ∧ ∀ entry ∈ entries, IsJson entry.2 := by
  constructor
  · intro h
    cases h with
    | text h => cases h
    | map hkeys hdistinct h => exact ⟨hkeys, hdistinct, h⟩
  · exact fun ⟨hkeys, hdistinct, h⟩ => .map hkeys hdistinct h

/-- An item may be replaced by one that is written alike. -/
theorem writtenItems_replace (before after : List Value) {v w : Value} (h : written v = written w) :
    writtenItems (before ++ v :: after) = writtenItems (before ++ w :: after) := by
  induction before with
  | nil => rw [List.nil_append, List.nil_append, writtenItems, writtenItems, h]
  | cons u before ih => rw [List.cons_append, List.cons_append, writtenItems, writtenItems, ih]

/-- Reordering keeps what text a value counts as. -/
theorem Reordered.asText?_eq {v w : Value} (h : Reordered v w) : asText? v = asText? w := by
  induction h with
  | trans _ _ ih ih' => exact ih.trans ih'
  | text hv hw => exact hv.trans hw.symm
  | refl | item | entry | order => rfl

/-- The text of a value that can be written. -/
def jsonText (v : Value) : String := (written v).toOption.getD ""

/-- A value that JSON has a form for is written as its text. -/
theorem IsJson.written_eq_jsonText {v : Value} (h : IsJson v) : written v = .ok (jsonText v) := by
  obtain ⟨s, _, hround⟩ := h.roundTrip
  rw [jsonText, hround.written]
  rfl

/-- The keys of a map with the texts of their values. -/
def members (entries : List (Value × Value)) : List (String × String) :=
  entries.map fun entry => (keyText entry.1, jsonText entry.2)

/-- The members of a map are known by the texts of its keys. -/
theorem map_fst_members (entries : List (Value × Value)) :
    (members entries).map Prod.fst = entries.map fun entry => keyText entry.1 := by
  rw [members, List.map_map]
  rfl

/-- The text of a map is made of the members in the order of their keys. -/
theorem IsJson.written_map {entries : List (Value × Value)} (h : IsJson (.map entries)) :
    written (.map entries) = .ok ("\x7b" ++ Text.joined ", "
      ((inOrder Prod.fst (members entries)).map fun member =>
        Json.string member.1 ++ ": " ++ member.2) ++ "\x7d") := by
  obtain ⟨hkeys, -, hvalues⟩ := isJson_map_iff.1 h
  have hsorted : (inOrder (fun entry => keyText entry.1) entries).map
      (fun entry => (keyText entry.1, jsonText entry.2)) = inOrder Prod.fst (members entries) :=
    List.map_mergeSort fun _ _ _ _ => rfl
  rw [written_of_entries hkeys fun entry hentry => (hvalues entry hentry).written_eq_jsonText,
    ← hsorted, List.map_map]
  rfl

/-- Maps with the same members have one text. -/
theorem written_eq_of_members {entries others : List (Value × Value)} (h : IsJson (.map entries))
    (h' : IsJson (.map others)) (hperm : (members entries).Perm (members others)) :
    written (.map entries) = written (.map others) := by
  have hdistinct : ((members entries).map Prod.fst).Nodup := by
    rw [map_fst_members]
    exact (isJson_map_iff.1 h).2.1
  rw [h.written_map, h'.written_map, inOrder_eq_of_perm hperm hdistinct]

/-- The order of insertion does not matter for the text, at whatever depth. -/
theorem Reordered.written_eq {v w : Value} (h : Reordered v w) (hv : IsJson v) :
    IsJson w ∧ written v = written w := by
  induction h with
  | refl => exact ⟨hv, rfl⟩
  | trans _ _ ih ih' =>
    obtain ⟨hmiddle, hfirst⟩ := ih hv
    obtain ⟨hlast, hsecond⟩ := ih' hmiddle
    exact ⟨hlast, hfirst.trans hsecond⟩
  | text hs hs' => exact ⟨.text hs', by rw [written_of_asText? hs, written_of_asText? hs']⟩
  | item before after _ ih =>
    have hitems := hv.item
    rw [List.forall_mem_append, List.forall_mem_cons] at hitems
    obtain ⟨hitem, hwritten⟩ := ih hitems.2.1
    refine ⟨.list (List.forall_mem_append.2 ⟨hitems.1, List.forall_mem_cons.2 ⟨hitem, hitems.2.2⟩⟩),
      ?_⟩
    rw [written, written, writtenItems_replace before after hwritten]
  | @entry before after k l v w hkey _ _ ih =>
    obtain ⟨hkeys, hdistinct, hvalues⟩ := isJson_map_iff.1 hv
    simp only [List.forall_mem_append, List.forall_mem_cons] at hkeys hvalues
    obtain ⟨hvalue, hwritten⟩ := ih hvalues.2.1
    have hmembers : members (before ++ (k, v) :: after) = members (before ++ (l, w) :: after) := by
      simp only [members, List.map_append, List.map_cons, keyText, jsonText, hkey.asText?_eq,
        hwritten]
    have hother : IsJson (.map (before ++ (l, w) :: after)) := by
      refine isJson_map_iff.2 ⟨?_, ?_, ?_⟩
      · simp only [List.forall_mem_append, List.forall_mem_cons]
        exact ⟨hkeys.1, hkey.asText?_eq ▸ hkeys.2.1, hkeys.2.2⟩
      · rwa [← map_fst_members, ← hmembers, map_fst_members]
      · simp only [List.forall_mem_append, List.forall_mem_cons]
        exact ⟨hvalues.1, hvalue, hvalues.2.2⟩
    exact ⟨hother, written_eq_of_members hv hother (.of_eq hmembers)⟩
  | @order entries others hperm =>
    obtain ⟨hkeys, hdistinct, hvalues⟩ := isJson_map_iff.1 hv
    have hother : IsJson (.map others) := isJson_map_iff.2
      ⟨fun entry hentry => hkeys entry (hperm.mem_iff.2 hentry),
        (hperm.map fun entry => keyText entry.1).nodup_iff.1 hdistinct,
        fun entry hentry => hvalues entry (hperm.mem_iff.2 hentry)⟩
    exact ⟨hother, written_eq_of_members hv hother (hperm.map _)⟩

/-- A map of one text comes back. -/
theorem exists_writtenMap_text (key s : String) :
    ∃ written, writtenMap [(.text key, .ok (Json.string s))] = .ok written ∧
      ofJson? written = some (.map [(.text key, .text s)]) := by
  have hvalues : ∀ entry ∈ [(key, s)], written (.text entry.2) = .ok (Json.string entry.2) :=
    fun entry _ => rfl
  have hspelled : ∀ entry ∈ [(key, s)], Spells (Json.string entry.2) (.text entry.2) :=
    fun entry _ => Json.spells_string entry.2
  have hwritten := written_map_text Prod.fst hvalues
  have hspells := Json.spells_object Prod.fst hspelled
  rw [inOrder, List.mergeSort_singleton] at hwritten
  refine ⟨_, hwritten, ?_⟩
  rw [ofJson?, hspells.document?_eq rfl]
  rfl

end PackageBuild.Value
