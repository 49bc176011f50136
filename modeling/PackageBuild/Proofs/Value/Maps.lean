import Mathlib.Data.List.Nodup
import PackageBuild.Proofs.Attempt
import PackageBuild.Proofs.Text.Order
import PackageBuild.Value.Plain
import PackageBuild.Value.Written

/-!
# Maps under texts

A map of which all keys are texts has a plain form and a JSON text whenever its values have them:
texts can always be put in order, and different texts stay different keys.

Main results:

- Theorems `pairwise_inOrder` and `inOrder_eq_of_perm`: items stand in the order of their texts, in
  whatever order they came.
- Theorem `sortEntries_map`: entries under texts are put in order and hold what they held.
- Theorem `ofEntries_map_text`: entries under different texts are a map already.
- Theorem `exists_mem_ofEntries`: a map of entries with different keys behind another one has all of
  their values.
- Theorems `plain_map_text` and `written_map`: the plain form of a map and the text of one.
-/

namespace PackageBuild.Value

variable {α γ : Type} {keyOf : γ → String}

/-- Items in the order of their texts. -/
def inOrder (keyOf : γ → String) (items : List γ) : List γ :=
  items.mergeSort fun x y => Text.atMost (keyOf x) (keyOf y)

/-- Ordering items by their texts keeps the items. -/
theorem perm_inOrder (keyOf : γ → String) (items : List γ) : (inOrder keyOf items).Perm items :=
  List.mergeSort_perm items _

/-- Items in the order of their texts have ascending texts. -/
theorem pairwise_inOrder (keyOf : γ → String) (items : List γ) :
    (inOrder keyOf items).Pairwise fun x y => keyOf x ≤ keyOf y := by
  have hsorted := List.pairwise_mergeSort
      (fun x y z => Text.atMost_trans (keyOf x) (keyOf y) (keyOf z))
    (fun x y => Text.atMost_total (keyOf x) (keyOf y)) items
  exact hsorted.imp fun h => Text.atMost_iff.1 h

/-- Items under different texts stand in strictly ascending order of these. -/
theorem pairwise_lt_inOrder {items : List γ} (h : (items.map keyOf).Nodup) :
    ((inOrder keyOf items).map keyOf).Pairwise (· < ·) :=
  Text.pairwise_lt_of_nodup (List.pairwise_map.2 (pairwise_inOrder keyOf items))
    (((perm_inOrder keyOf items).map keyOf).nodup_iff.2 h)

/-- Putting items in order forgets in which order they came, if their texts are different. -/
theorem inOrder_eq_of_perm {items others : List γ} (hperm : items.Perm others)
    (hnodup : (items.map keyOf).Nodup) : inOrder keyOf items = inOrder keyOf others := by
  have hboth : (inOrder keyOf items).Perm (inOrder keyOf others) :=
    (perm_inOrder keyOf items).trans (hperm.trans (perm_inOrder keyOf others).symm)
  refine hboth.eq_of_pairwise (fun x y hx hy hxy hyx => ?_) (pairwise_inOrder keyOf items)
    (pairwise_inOrder keyOf others)
  have hinjective := List.inj_on_of_nodup_map hnodup
  exact hinjective ((perm_inOrder keyOf items).mem_iff.1 hx)
    (hperm.mem_iff.2 ((perm_inOrder keyOf others).mem_iff.1 hy)) (String.le_antisymm hxy hyx)

/-- Entries whose keys count as texts are put in order and hold what they held. -/
theorem sortEntries_map {nameOf : γ → String} {keyOf : γ → Value} {items : List γ}
    (hname : ∀ item ∈ items, asText? (keyOf item) = some (nameOf item)) (valueOf : γ → α) :
    sortEntries (items.map fun item => (keyOf item, valueOf item)) =
      .ok ((inOrder nameOf items).map fun item => (keyOf item, valueOf item)) := by
  have htexts : (items.map fun item => (keyOf item, valueOf item)).mapM textEntry? =
      some (items.map fun item => (nameOf item, keyOf item, valueOf item)) := by
    induction items with
    | nil => rfl
    | cons item rest ih =>
      obtain ⟨hfirst, hrest⟩ := List.forall_mem_cons.1 hname
      rw [List.map_cons, List.mapM_cons, ih hrest, textEntry?, hfirst]
      rfl
  have hsorted : ((inOrder nameOf items).map fun item => (nameOf item, keyOf item, valueOf item)) =
      (items.map fun item => (nameOf item, keyOf item, valueOf item)).mergeSort
        fun x y => Text.atMost x.1 y.1 := by
    refine List.map_mergeSort fun x _ y _ => ?_
    dsimp only
  rw [sortEntries_texts htexts, sortTextEntries, ← hsorted, List.map_map]
  rfl

/-- Entries under texts are put in the order of these texts. -/
theorem sortEntries_map_text (keyOf : γ → String) (valueOf : γ → α) (items : List γ) :
    sortEntries (items.map fun item => (text (keyOf item), valueOf item)) =
      .ok ((inOrder keyOf items).map fun item => (text (keyOf item), valueOf item)) :=
  sortEntries_map (fun _ _ => rfl) valueOf

/-! ## Different keys -/

/-- A key that equals no other one is new. -/
theorem replaceKnown?_of_new {key : Value} (value : Value) {entries : List (Value × Value)}
    (h : ∀ entry ∈ entries, key.same entry.1 = false) :
    replaceKnown? key value entries = none := by
  induction entries with
  | nil => rfl
  | cons entry rest ih =>
    obtain ⟨hfirst, hrest⟩ := List.forall_mem_cons.1 h
    rw [replaceKnown?, hfirst, ih hrest]
    rfl

/-- A key that is not among the entries replaces none of them. -/
theorem replaceKnown?_eq_none {valueOf : γ → Value} {items : List γ} {key : String}
    (h : ∀ item ∈ items, keyOf item ≠ key) (v : Value) :
    replaceKnown? (text key) v (items.map fun item => (text (keyOf item), valueOf item)) =
      none := by
  refine replaceKnown?_of_new v (List.forall_mem_map.2 fun item hitem => ?_)
  rw [same_text, beq_eq_false_iff_ne]
  exact (h item hitem).symm

/-- Entries under different texts are inserted one behind the other. -/
theorem foldl_insertEntry {valueOf : γ → Value} (before items : List γ)
    (h : ((before ++ items).map keyOf).Nodup) :
    (items.map fun item => (text (keyOf item), valueOf item)).foldl
        (fun entries entry => insertEntry entries entry.1 entry.2)
        (before.map fun item => (text (keyOf item), valueOf item)) =
      (before ++ items).map fun item => (text (keyOf item), valueOf item) := by
  induction items generalizing before with
  | nil => simp
  | cons item rest ih =>
    have hnew : ∀ other ∈ before, keyOf other ≠ keyOf item := by
      intro other hother heq
      rw [List.map_append, List.map_cons, List.nodup_append] at h
      exact h.2.2 _ (List.mem_map_of_mem hother) _ List.mem_cons_self heq
    have hbehind : before ++ item :: rest = (before ++ [item]) ++ rest := by simp
    rw [hbehind] at h ⊢
    rw [List.map_cons, List.foldl_cons, insertEntry, replaceKnown?_eq_none hnew, ← ih _ h]
    simp

/-- Entries under different texts are a map already. -/
theorem ofEntries_map_text {valueOf : γ → Value} {items : List γ} (h : (items.map keyOf).Nodup) :
    ofEntries (items.map fun item => (text (keyOf item), valueOf item)) =
      items.map fun item => (text (keyOf item), valueOf item) :=
  foldl_insertEntry [] items h

/-! ## Entries behind another one -/

/-- What equals a text counts as that text. -/
theorem same_text_eq {k : Value} {s : String} (h : k.same (.text s) = true) :
    k.asText? = some s := by
  cases k <;> simp_all [same, sameAtom, asText?]

/-- Values that count as one text are equal. -/
theorem same_of_asText? {k l : Value} {s : String} (hk : k.asText? = some s)
    (hl : l.asText? = some s) : k.same l = true := by
  cases k <;> cases l <;> simp_all [same, sameAtom, asText?]

/-- Of two different keys, only one can be equal to a text. -/
theorem not_same_text_of_same_text {k l : Value} {s : String} (hdistinct : l.same k = false)
    (hk : k.same (.text s) = true) : ¬ l.same (.text s) = true := fun hl => by
  have hequal := same_of_asText? (same_text_eq hl) (same_text_eq hk)
  exact Bool.false_ne_true (hdistinct.symm.trans hequal)

/-- No key equals an earlier one. -/
def DistinctKeys (entries : List (Value × Value)) : Prop :=
  entries.Pairwise fun earlier later => later.1.same earlier.1 = false

/-- At most one entry has a key that equals a text. -/
theorem DistinctKeys.eq_of_same_text {entries : List (Value × Value)} (h : DistinctKeys entries)
    {e e' : Value × Value} (he : e ∈ entries) (he' : e' ∈ entries) {s : String}
    (hs : e.1.same (.text s) = true) (hs' : e'.1.same (.text s) = true) : e = e' := by
  induction entries with
  | nil => cases he
  | cons first rest ih =>
    obtain ⟨hlater, hrest⟩ := List.pairwise_cons.1 h
    rcases List.mem_cons.1 he with rfl | hmem
    · rcases List.mem_cons.1 he' with rfl | hmem'
      · rfl
      · exact absurd hs' (not_same_text_of_same_text (hlater e' hmem') hs)
    · rcases List.mem_cons.1 he' with rfl | hmem'
      · exact absurd hs (not_same_text_of_same_text (hlater e hmem) hs')
      · exact ih hrest hmem hmem'

/-- The entries behind the first one are new to each other: only the first one is overwritten, by
the one entry under its text. -/
theorem foldl_insertEntry_first {s : String} {entries : List (Value × Value)} (first : Value)
    {others : List (Value × Value)} (hentries : DistinctKeys entries)
    (hothers : ∀ other ∈ others, ∀ entry ∈ entries, entry.1.same other.1 = false) :
    entries.foldl (fun before entry => insertEntry before entry.1 entry.2)
        ((.text s, first) :: others) =
      (.text s, ((entries.find? fun entry => entry.1.same (.text s)).map Prod.snd).getD first) ::
        (others ++ entries.filter fun entry => !entry.1.same (.text s)) := by
  induction entries generalizing first others with
  | nil => simp
  | cons entry rest ih =>
    obtain ⟨hlater, hrest⟩ := List.pairwise_cons.1 hentries
    rw [List.foldl_cons, insertEntry, replaceKnown?]
    by_cases hsame : entry.1.same (.text s) = true
    · have hnone : rest.find? (fun later => later.1.same (.text s)) = none :=
        List.find?_eq_none.2 fun later hmem hagain =>
          not_same_text_of_same_text (hlater later hmem) hsame hagain
      rw [if_pos hsame, Option.getD_some, ih entry.2 hrest fun other hother later hmem =>
        hothers other hother later (List.mem_cons_of_mem _ hmem)]
      simp [hsame, hnone]
    · have hnew : replaceKnown? entry.1 entry.2 others = none :=
        replaceKnown?_of_new entry.2 fun other hother =>
          hothers other hother entry List.mem_cons_self
      have hothers' : ∀ other ∈ others ++ [entry], ∀ later ∈ rest,
          later.1.same other.1 = false := by
        refine List.forall_mem_append.2 ⟨fun other hother later hmem =>
          hothers other hother later (List.mem_cons_of_mem _ hmem), ?_⟩
        simpa using hlater
      rw [if_neg hsame, hnew, Option.map_none, Option.getD_none, List.cons_append,
        ih first hrest hothers']
      simp [hsame]

/-- The plain text of what counts as a text is that text. -/
theorem plainText_of_asText? {k : Value} {s : String} (h : k.asText? = some s) :
    k.plainText = .ok s := by
  cases k <;> simp_all [asText?, plainText]

/-- A map of entries with different keys behind another one has all of their values, each under a
key of the same text. -/
theorem exists_mem_ofEntries {s : String} {first : Value} {entries : List (Value × Value)}
    (hentries : DistinctKeys entries) {entry : Value × Value} (hentry : entry ∈ entries) :
    ∃ put ∈ ofEntries ((.text s, first) :: entries),
      put.1.plainText = entry.1.plainText ∧ put.2 = entry.2 := by
  have hput : ofEntries ((.text s, first) :: entries) = _ :=
    @foldl_insertEntry_first s entries first [] hentries (by simp)
  rw [hput, List.nil_append]
  by_cases hsame : entry.1.same (.text s) = true
  · cases hfind : entries.find? fun entry => entry.1.same (.text s) with
    | none => exact absurd hsame (List.find?_eq_none.1 hfind entry hentry)
    | some found =>
      have hagain : found.1.same (.text s) = true := by simpa using List.find?_some hfind
      have hfound : found = entry :=
        hentries.eq_of_same_text (List.mem_of_find?_eq_some hfind) hentry hagain hsame
      refine ⟨_, List.mem_cons_self, ?_, by rw [hfound]; rfl⟩
      exact (plainText_of_asText? (same_text_eq hsame)).symm
  · exact ⟨entry, List.mem_cons_of_mem _ (List.mem_filter.2 ⟨hentry, by simp [hsame]⟩), rfl, rfl⟩

/-! ## Plain forms and texts -/

/-- The plain forms of entries under texts are made one by one. -/
theorem plainEntries_map_text {valueOf plainOf : γ → Value} {items : List γ}
    (h : ∀ item ∈ items, plain true (valueOf item) = .ok (plainOf item)) :
    plainEntries true (items.map fun item => (text (keyOf item), valueOf item)) =
      .ok (items.map fun item => (text (keyOf item), plainOf item)) := by
  induction items with
  | nil => rfl
  | cons item rest ih =>
    rw [List.map_cons, plainEntries, plain, h item List.mem_cons_self,
      ih fun item hitem => h item (List.mem_cons_of_mem _ hitem)]
    rfl

/-- The plain form of a map under different texts. -/
theorem plain_map_text (keyOf : γ → String) {valueOf plainOf : γ → Value} {items : List γ}
    (hnodup : (items.map keyOf).Nodup)
    (h : ∀ item ∈ items, plain true (valueOf item) = .ok (plainOf item)) :
    plain true (.map (items.map fun item => (text (keyOf item), valueOf item))) =
      .ok (.map ((inOrder keyOf items).map fun item => (text (keyOf item), plainOf item))) := by
  rw [plain, plainEntries_map_text h]
  change plainMap _ = _
  rw [plainMap, ofEntries_map_text hnodup, sortEntries_map_text]
  rfl

/-- Entries are written one by one. -/
theorem writtenEntries_map {keyOf valueOf : γ → Value} (items : List γ) :
    writtenEntries (items.map fun item => (keyOf item, valueOf item)) =
      items.map fun item => (keyOf item, written (valueOf item)) := by
  induction items with
  | nil => rfl
  | cons item rest ih => rw [List.map_cons, writtenEntries, ih, List.map_cons]

/-- A key that counts as a text is written as that text. -/
theorem writtenKey_of_asText? {k : Value} {s : String} (h : asText? k = some s) :
    writtenKey k = .ok s := by
  cases k <;> simp_all [asText?, writtenKey]

/-- The text of a map whose keys count as texts. -/
theorem written_map {nameOf : γ → String} {keyOf valueOf : γ → Value} {textOf : γ → String}
    {items : List γ} (hname : ∀ item ∈ items, asText? (keyOf item) = some (nameOf item))
    (h : ∀ item ∈ items, written (valueOf item) = .ok (textOf item)) :
    written (.map (items.map fun item => (keyOf item, valueOf item))) =
      .ok ("\x7b" ++ Text.joined ", " ((inOrder nameOf items).map fun item =>
        Json.string (nameOf item) ++ ": " ++ textOf item) ++ "\x7d") := by
  rw [written, writtenEntries_map, writtenMap, sortEntries_map hname]
  refine Attempt.bind_eq_ok_iff.2 ⟨_, rfl, Attempt.bind_eq_ok_iff.2 ⟨_, ?_, rfl⟩⟩
  rw [List.mapM_map]
  refine Attempt.mapM_eq_ok_map fun item hitem => ?_
  have hmem := (perm_inOrder nameOf items).mem_iff.1 hitem
  simp only [Function.comp_apply, writtenKey_of_asText? (hname item hmem), h item hmem, bind,
    Except.bind, pure, Except.pure]

/-- The text of a map under texts. -/
theorem written_map_text (keyOf : γ → String) {plainOf : γ → Value} {textOf : γ → String}
    {items : List γ} (h : ∀ item ∈ items, written (plainOf item) = .ok (textOf item)) :
    written (.map (items.map fun item => (text (keyOf item), plainOf item))) =
      .ok ("\x7b" ++ Text.joined ", " ((inOrder keyOf items).map fun item =>
        Json.string (keyOf item) ++ ": " ++ textOf item) ++ "\x7d") :=
  written_map (fun _ _ => rfl) h

end PackageBuild.Value
