import PackageBuild.Proofs.Attempt
import PackageBuild.Proofs.Sorting.Kinship
import PackageBuild.Value.Written

/-!
# What can be written

A map can be written as JSON when its keys can: each of them is a text, a number, a truth value or
nothing, and any two are both texts or both numbers, so that they have an order.  The same is
required of every map that is written with it.  What JSON has no form for is written as a plain
text; packages that are not made of texts have none.

Main results:

- Theorem `kinship_less`: values that are compared are of one rank.
- Theorem `decides_writtenMap`: a map is written exactly when its keys and its values are.
- Theorem `decides_written`: a value is written exactly when all values within it are fit for it.
-/

namespace PackageBuild.Value

variable {α β : Type}

/-! ## Ranks -/

/-- The kinds of values among which there is an order. -/
inductive Rank where
  | number
  | text
  | bytes
  | path
  | list
  | tuple
  | set
  deriving DecidableEq, Repr

/-- The rank of a value; all other values have no order. -/
def rank? : Value → Option Rank
  | bool _ | int _ | float _ => some .number
  | text _ | member _ => some .text
  | bytes _ => some .bytes
  | path _ => some .path
  | list _ => some .list
  | tuple _ => some .tuple
  | set _ => some .set
  | null | complex .. | map _ | record .. => none

/-- Values of one rank. -/
def SameRank (x y : Value) : Prop := ∃ rank, rank? x = some rank ∧ rank? y = some rank

theorem SameRank.symm {x y : Value} (h : SameRank x y) : SameRank y x := by
  obtain ⟨rank, hx, hy⟩ := h
  exact ⟨rank, hy, hx⟩

theorem SameRank.trans {x y z : Value} (h : SameRank x y) (h' : SameRank y z) : SameRank x z := by
  obtain ⟨rank, hx, hy⟩ := h
  obtain ⟨rank', hy', hz⟩ := h'
  cases hy.symm.trans hy'
  exact ⟨rank, hx, hz⟩

/-- Numbers have the rank of numbers. -/
theorem rank?_of_asReal? {x : Value} {a : Real} (h : asReal? x = some a) :
    rank? x = some .number := by
  cases x <;> first | rfl | cases h

/-- Texts have the rank of texts. -/
theorem rank?_of_asText? {x : Value} {s : String} (h : asText? x = some s) :
    rank? x = some .text := by
  cases x <;> first | rfl | cases h

/-- Scalars that have an order are of one rank. -/
theorem sameRank_of_lessAtom {x y : Value} {b : Bool} (h : lessAtom x y = .ok b) :
    SameRank x y := by
  unfold lessAtom at h
  split at h
  · next a b hx hy => exact ⟨.number, rank?_of_asReal? hx, rank?_of_asReal? hy⟩
  split at h
  · next s t hx hy => exact ⟨.text, rank?_of_asText? hx, rank?_of_asText? hy⟩
  split at h
  · exact ⟨.bytes, rfl, rfl⟩
  · exact ⟨.path, rfl, rfl⟩
  · exact ⟨.set, rfl, rfl⟩
  · cases h

/-- Values that are compared are of one rank. -/
theorem sameRank_of_less {x y : Value} {b : Bool} (h : less x y = .ok b) : SameRank x y := by
  unfold less at h
  split at h
  · exact ⟨.list, rfl, rfl⟩
  · exact ⟨.tuple, rfl, rfl⟩
  · exact sameRank_of_lessAtom h

/-- Entries are compared by their keys. -/
theorem kinship_less : Sorting.Kinship (fun x y : Value × α => less x.1 y.1)
    (fun x y : Value × α => SameRank x.1 y.1) where
  of_less := sameRank_of_less
  symm := SameRank.symm
  trans := SameRank.trans

/-! ## Fit keys -/

/-- The kinds of keys that a written map can have. -/
inductive KeyKind where
  | text
  | number
  | nothing
  deriving DecidableEq, Repr

/-- The kind of a key, if a written map can have it. -/
def keyKind? : Value → Option KeyKind
  | text _ | member _ => some .text
  | bool _ | int _ | float _ => some .number
  | null => some .nothing
  | _ => none

/-- Two keys that can be put in order: both are texts, or both are numbers. -/
def Orderable (k l : Value) : Prop :=
  keyKind? k = some .text ∧ keyKind? l = some .text ∨
    keyKind? k = some .number ∧ keyKind? l = some .number

/-- Keys that a written map can have together. -/
structure FitKeys (keys : List Value) : Prop where
  known : ∀ k ∈ keys, ∃ kind, keyKind? k = some kind
  orderable : keys.Pairwise Orderable

/-- What is wrong with a value that cannot be written: keys have no order or no text, or a package
in it is not made of texts. -/
def Fault.OfWriting (fault : Fault) : Prop :=
  (∃ left right, fault = .notOrdered left right) ∨ (∃ name, fault = .writtenKey name) ∨
    ∃ place name, fault = .notText place name

/-! ## Decisions -/

/-- An attempt succeeds exactly when something holds, and else it fails as writing does. -/
def Decides (fit : Prop) : Except Fault α → Prop
  | .ok _ => fit
  | .error fault => ¬ fit ∧ fault.OfWriting

/-- A condition may be replaced by an equivalent one. -/
theorem Decides.of_iff {fit fit' : Prop} {result : Except Fault α} (h : Decides fit result)
    (hiff : fit ↔ fit') : Decides fit' result :=
  propext hiff ▸ h

/-- The condition holds exactly when there is a result. -/
theorem Decides.iff_exists {fit : Prop} {result : Except Fault α} (h : Decides fit result) :
    fit ↔ ∃ a, result = .ok a := by
  cases result with
  | ok a => exact ⟨fun _ => ⟨a, rfl⟩, fun _ => h⟩
  | error fault => exact ⟨fun hfit => absurd hfit h.1, fun ⟨_, ha⟩ => nomatch ha⟩

/-- What is made of a result needs no condition of its own. -/
theorem Decides.map {fit : Prop} {result : Except Fault α} (h : Decides fit result) (f : α → β) :
    Decides fit (result.map f) := by
  cases result <;> exact h

/-- What follows an attempt decides the rest. -/
theorem Decides.bind {fit fit' : Prop} {result : Except Fault α} {next : α → Except Fault β}
    (h : Decides fit result) (hnext : ∀ a, result = .ok a → Decides fit' (next a)) :
    Decides (fit ∧ fit') (result >>= next) := by
  cases result with
  | error fault => exact ⟨fun hfit => h.1 hfit.1, h.2⟩
  | ok a =>
    have hrest : Decides fit' (next a) := hnext a rfl
    change Decides (fit ∧ fit') (next a)
    cases hresult : next a with
    | ok b => exact ⟨h, by simpa [hresult, Decides] using hrest⟩
    | error fault =>
      rw [hresult] at hrest
      exact ⟨fun hfit => hrest.1 hfit.2, hrest.2⟩

theorem Decides.bind_pure {fit : Prop} {result : Except Fault α} (h : Decides fit result)
    (f : α → β) : Decides fit (result >>= fun a => pure (f a)) := by
  cases result <;> exact h

/-- A traversal has a result when each item has one. -/
theorem Decides.mapM {fit : α → Prop} {f : α → Except Fault β} {l : List α}
    (h : ∀ a ∈ l, Decides (fit a) (f a)) : Decides (∀ a ∈ l, fit a) (l.mapM f) := by
  induction l with
  | nil => exact fun _ hnone => absurd hnone List.not_mem_nil
  | cons a l ih =>
    have hrest := ih fun b hb => h b (List.mem_cons_of_mem a hb)
    rw [List.mapM_cons, List.forall_mem_cons]
    exact (h a List.mem_cons_self).bind fun b _ => hrest.bind_pure (b :: ·)

/-- A key is written when it is of a known kind. -/
theorem decides_writtenKey (k : Value) :
    Decides (∃ kind, keyKind? k = some kind) (writtenKey k) := by
  cases k <;> simp [Decides, writtenKey, keyKind?, Fault.OfWriting]

/-! ## Keys in order -/

mutual

/-- Comparing values fails only as two of their parts have no order. -/
theorem exists_of_less_eq_error (x y : Value) {fault : Fault} (h : less x y = .error fault) :
    ∃ left right, fault = .notOrdered left right := by
  unfold less at h
  split at h
  · exact exists_of_lessItems_eq_error _ _ h
  · exact exists_of_lessItems_eq_error _ _ h
  · unfold lessAtom at h
    split at h
    · cases h
    split at h
    · cases h
    split at h <;> cases h
    exact ⟨_, _, rfl⟩

/-- Lists are compared unless two of their items have no order. -/
theorem exists_of_lessItems_eq_error (xs ys : List Value) {fault : Fault}
    (h : lessItems xs ys = .error fault) : ∃ left right, fault = .notOrdered left right := by
  match xs, ys with
  | [], _ => cases h
  | _ :: _, [] => cases h
  | x :: xs, y :: ys =>
    rw [lessItems] at h
    split at h
    · exact exists_of_lessItems_eq_error xs ys h
    · exact exists_of_less_eq_error x y h

end

/-- Entries whose keys are all texts hold what they held. -/
theorem map_snd_of_mapM_textEntry? {entries : List (Value × α)} {texts : List (String × Value × α)}
    (h : entries.mapM textEntry? = some texts) :
    texts.map Prod.snd = entries ∧ ∀ entry ∈ entries, rank? entry.1 = some .text := by
  induction entries generalizing texts with
  | nil =>
    cases h
    exact ⟨rfl, by simp⟩
  | cons entry rest ih =>
    simp only [List.mapM_cons, Option.bind_eq_bind, Option.bind_eq_some_iff] at h
    obtain ⟨first, hfirst, others, hothers, hpure⟩ := h
    cases hpure
    obtain ⟨s, hs, rfl⟩ := Option.map_eq_some_iff.1 hfirst
    obtain ⟨hmap, hranks⟩ := ih hothers
    exact ⟨congrArg (entry :: ·) hmap, List.forall_mem_cons.2 ⟨rank?_of_asText? hs, hranks⟩⟩

/-- Entries under texts are known as such. -/
theorem exists_mapM_textEntry? {entries : List (Value × α)}
    (h : ∀ entry ∈ entries, keyKind? entry.1 = some .text) :
    ∃ texts, entries.mapM textEntry? = some texts := by
  induction entries with
  | nil => exact ⟨[], rfl⟩
  | cons entry rest ih =>
    obtain ⟨hfirst, hrest⟩ := List.forall_mem_cons.1 h
    obtain ⟨texts, htexts⟩ := ih hrest
    obtain ⟨s, hs⟩ : ∃ s, asText? entry.1 = some s := by
      obtain ⟨k, a⟩ := entry
      cases k with
      | text s => exact ⟨s, rfl⟩
      | member m => exact ⟨m.text, rfl⟩
      | _ => cases hfirst
    exact ⟨(s, entry) :: texts, by simp [hs, htexts, textEntry?]⟩

/-- Entries that can be put in order have keys of one rank, and nothing is lost. -/
theorem perm_of_sortEntries {entries sorted : List (Value × α)}
    (h : sortEntries entries = .ok sorted) :
    sorted.Perm entries ∧ entries.Pairwise fun x y => SameRank x.1 y.1 := by
  have hsort := Sorting.compares_sort kinship_less entries
  unfold sortEntries at h
  split at h
  · next texts htexts =>
    cases h
    obtain ⟨hmap, hranks⟩ := map_snd_of_mapM_textEntry? htexts
    refine ⟨?_, List.pairwise_of_forall_mem_list fun x hx y hy => ⟨.text, hranks x hx, hranks y hy⟩⟩
    exact ((List.mergeSort_perm texts _).map Prod.snd).trans (.of_eq hmap)
  · rw [h] at hsort
    refine ⟨hsort.1, ?_⟩
    exact (hsort.1.pairwise_iff SameRank.symm).1 hsort.2

/-- The keys of a list of at least two are all texts or all numbers, if they are fit. -/
theorem FitKeys.texts_or_numbers {k l : Value} {keys : List Value} (h : FitKeys (k :: l :: keys)) :
    (∀ m ∈ k :: l :: keys, keyKind? m = some .text) ∨
      ∀ m ∈ k :: l :: keys, keyKind? m = some .number := by
  have hk : ∀ m ∈ l :: keys, Orderable k m := (List.pairwise_cons.1 h.orderable).1
  rcases hk l List.mem_cons_self with ⟨hkind, -⟩ | ⟨hkind, -⟩
  · refine .inl (List.forall_mem_cons.2 ⟨hkind, fun m hm => ?_⟩)
    rcases hk m hm with ⟨-, hm⟩ | ⟨hk', -⟩
    · exact hm
    · cases hkind.symm.trans hk'
  · refine .inr (List.forall_mem_cons.2 ⟨hkind, fun m hm => ?_⟩)
    rcases hk m hm with ⟨hk', -⟩ | ⟨-, hm⟩
    · cases hkind.symm.trans hk'
    · exact hm

/-- Numbers have an order. -/
theorem exists_less_of_number {x y : Value} (hx : keyKind? x = some .number)
    (hy : keyKind? y = some .number) : ∃ b, less x y = .ok b := by
  cases x with
  | bool | int | float =>
    cases y with
    | bool | int | float => exact ⟨_, rfl⟩
    | _ => cases hy
  | _ => cases hx

/-- Entries that cannot be put in order have no fit keys. -/
theorem not_fitKeys_of_sortEntries {entries : List (Value × α)} {fault : Fault}
    (h : sortEntries entries = .error fault) :
    ¬ FitKeys (entries.map Prod.fst) ∧ ∃ left right, fault = .notOrdered left right := by
  have hsort := Sorting.compares_sort kinship_less entries
  unfold sortEntries at h
  split at h
  · cases h
  · next hnone =>
    have herror := h
    rw [h] at hsort
    obtain ⟨x, hx, y, hy, hless⟩ := hsort
    refine ⟨fun hfit => ?_, exists_of_less_eq_error _ _ hless⟩
    match entries with
    | [] => cases hx
    | [entry] =>
      rw [Sorting.sort_singleton] at herror
      cases herror
    | first :: second :: rest =>
      rcases hfit.texts_or_numbers with htexts | hnumbers
      · obtain ⟨texts, hsome⟩ : ∃ texts, (first :: second :: rest).mapM textEntry? = some texts :=
          exists_mapM_textEntry? fun entry hentry => htexts _ (List.mem_map_of_mem hentry)
        cases hsome.symm.trans hnone
      · obtain ⟨b, hb⟩ := exists_less_of_number (hnumbers _ (List.mem_map_of_mem hx))
          (hnumbers _ (List.mem_map_of_mem hy))
        cases hb.symm.trans hless

/-! ## Maps -/

/-- The rank of a key that can be written: a text, a number, or none. -/
theorem rank?_of_keyKind? {k : Value} {kind : KeyKind} (h : keyKind? k = some kind) :
    keyKind? k = some .text ∧ rank? k = some .text ∨
      keyKind? k = some .number ∧ rank? k = some .number ∨ rank? k = none := by
  cases k with
  | text | member => exact .inl ⟨rfl, rfl⟩
  | bool | int | float => exact .inr (.inl ⟨rfl, rfl⟩)
  | null => exact .inr (.inr rfl)
  | _ => cases h

/-- Keys of one rank that a written map can have are in an order. -/
theorem orderable_of_sameRank {k l : Value} (h : SameRank k l) {kind kind' : KeyKind}
    (hk : keyKind? k = some kind) (hl : keyKind? l = some kind') : Orderable k l := by
  obtain ⟨rank, hrank, hrank'⟩ := h
  have hkinds := rank?_of_keyKind? hk
  have hkinds' := rank?_of_keyKind? hl
  grind [Orderable]

/-- A map is written exactly when its keys are fit and its values are written. -/
theorem decides_writtenMap {entries : List (Value × Except Fault String)}
    {fit : Value × Except Fault String → Prop}
    (h : ∀ entry ∈ entries, Decides (fit entry) entry.2) :
    Decides (FitKeys (entries.map Prod.fst) ∧ ∀ entry ∈ entries, fit entry)
      (writtenMap entries) := by
  rw [writtenMap]
  cases hsort : sortEntries entries with
  | error fault =>
    obtain ⟨hfit, hfault⟩ := not_fitKeys_of_sortEntries hsort
    exact ⟨fun hboth => hfit hboth.1, .inl hfault⟩
  | ok sorted =>
    obtain ⟨hperm, hranks⟩ := perm_of_sortEntries hsort
    have hparts : Decides (∀ entry ∈ sorted, (∃ kind, keyKind? entry.1 = some kind) ∧ fit entry)
        (sorted.mapM fun entry => do
          let key ← writtenKey entry.1
          return Json.string key ++ ": " ++ (← entry.2)) := by
      refine Decides.mapM fun entry hentry => ?_
      exact (decides_writtenKey entry.1).bind fun key _ =>
        (h entry (hperm.mem_iff.1 hentry)).bind_pure (Json.string key ++ ": " ++ ·)
    refine (hparts.bind_pure fun parts => "\x7b" ++ Text.joined ", " parts ++ "\x7d").of_iff ?_
    constructor
    · intro hall
      have hknown (entry) (hentry : entry ∈ entries) := hall entry (hperm.mem_iff.2 hentry)
      refine ⟨⟨List.forall_mem_map.2 fun entry hentry => (hknown entry hentry).1, ?_⟩,
        fun entry hentry => (hknown entry hentry).2⟩
      rw [List.pairwise_map]
      refine hranks.imp_of_mem fun hx hy hrank => ?_
      obtain ⟨⟨kind, hkind⟩, -⟩ := hknown _ hx
      obtain ⟨⟨kind', hkind'⟩, -⟩ := hknown _ hy
      exact orderable_of_sameRank hrank hkind hkind'
    · rintro ⟨hfit, hall⟩ entry hentry
      have hmem := hperm.mem_iff.1 hentry
      exact ⟨hfit.known _ (List.mem_map_of_mem hmem), hall entry hmem⟩

/-! ## Values -/

mutual

/-- A value and those that are written with it: the items of lists and tuples and the values of
maps. -/
def writtenWith : Value → List Value
  | list items => list items :: writtenWithItems items
  | tuple items => tuple items :: writtenWithItems items
  | map entries => map entries :: writtenWithEntries entries
  | v => [v]
termination_by structural v => v

def writtenWithItems : List Value → List Value
  | [] => []
  | v :: rest => writtenWith v ++ writtenWithItems rest
termination_by structural items => items

def writtenWithEntries : List (Value × Value) → List Value
  | [] => []
  | (_, v) :: rest => writtenWith v ++ writtenWithEntries rest
termination_by structural entries => entries

end

/-- All maps among some values have fit keys. -/
def FitMaps (values : List Value) : Prop :=
  ∀ entries, map entries ∈ values → FitKeys (entries.map Prod.fst)

/-- All of some values have a plain text. -/
def HavePlainTexts (values : List Value) : Prop := ∀ v ∈ values, ∃ s, plainText v = .ok s

/-- Values that can be written together. -/
structure Fit (values : List Value) : Prop where
  maps : FitMaps values
  plainTexts : HavePlainTexts values

/-- All values but packages have a plain text. -/
theorem exists_plainText {v : Value} (h : ∀ fields, v ≠ record .package fields) :
    ∃ s, plainText v = .ok s := by
  unfold plainText
  split
  · exact ⟨_, rfl⟩
  · exact ⟨_, rfl⟩
  · exact ⟨_, rfl⟩
  · exact absurd rfl (h _)
  · exact ⟨_, rfl⟩

/-- The texts of a package are had unless one of its parts is no text. -/
theorem exists_of_textsFrom_eq_error {place : Nat} {words : List Value} {fault : Fault}
    (h : VersionedPackage.textsFrom place words = .error fault) :
    ∃ place name, fault = .notText place name := by
  induction words generalizing place with
  | nil => cases h
  | cons word rest ih =>
    rw [VersionedPackage.textsFrom] at h
    split at h
    · cases h
      exact ⟨_, _, rfl⟩
    · exact ih (Attempt.map_eq_error_iff.1 h)

/-- A value has a plain text unless it is a package that is not made of texts. -/
theorem decides_plainText (v : Value) : Decides (∃ s, plainText v = .ok s) (plainText v) := by
  cases htext : plainText v with
  | ok s => exact ⟨s, rfl⟩
  | error fault =>
    refine ⟨by simp, .inr (.inr ?_)⟩
    unfold plainText at htext
    split at htext
    case h_4 => exact exists_of_textsFrom_eq_error (Attempt.map_eq_error_iff.1 htext)
    all_goals cases htext

theorem fit_nil : Fit [] :=
  ⟨fun _ hnone => absurd hnone List.not_mem_nil, fun _ hnone => absurd hnone List.not_mem_nil⟩

/-- Values can be written together when those of both lists can. -/
theorem fit_append {xs ys : List Value} : Fit (xs ++ ys) ↔ Fit xs ∧ Fit ys := by
  constructor
  · rintro ⟨hmaps, htexts⟩
    exact ⟨⟨fun entries h => hmaps entries (List.mem_append_left ys h),
        fun v h => htexts v (List.mem_append_left ys h)⟩,
      ⟨fun entries h => hmaps entries (List.mem_append_right xs h),
        fun v h => htexts v (List.mem_append_right xs h)⟩⟩
  · rintro ⟨hxs, hys⟩
    exact ⟨fun entries h => (List.mem_append.1 h).elim (hxs.maps entries) (hys.maps entries),
      fun v h => (List.mem_append.1 h).elim (hxs.plainTexts v) (hys.plainTexts v)⟩

/-- A value that is no map can be written when it has a plain text. -/
theorem fit_singleton {v : Value} (h : ∀ entries, v ≠ map entries) :
    Fit [v] ↔ ∃ s, plainText v = .ok s := by
  constructor
  · exact fun hfit => hfit.plainTexts v (List.mem_singleton_self v)
  · refine fun htext => ⟨fun entries hmem => ?_, fun w hw => List.mem_singleton.1 hw ▸ htext⟩
    exact absurd (List.mem_singleton.1 hmem).symm (h entries)

/-- A map can be written, its values apart, when its keys are fit. -/
theorem fit_map {entries : List (Value × Value)} :
    Fit [map entries] ↔ FitKeys (entries.map Prod.fst) := by
  constructor
  · exact fun hfit => hfit.maps entries (List.mem_singleton_self _)
  · intro hkeys
    refine ⟨fun others hmem => ?_, fun w hw => exists_plainText ?_⟩
    · cases List.mem_singleton.1 hmem
      exact hkeys
    · rw [List.mem_singleton.1 hw]
      simp

/-- A value that always has a plain text, and is no map, adds nothing that could go wrong. -/
theorem fit_cons {v : Value} {rest : List Value} (h : ∀ entries, v ≠ map entries)
    (htext : ∀ fields, v ≠ record .package fields) : Fit (v :: rest) ↔ Fit rest := by
  rw [← List.singleton_append, fit_append, fit_singleton h]
  exact and_iff_right (exists_plainText htext)

/-- The entries of a map are written one by one. -/
theorem writtenEntries_eq_map (entries : List (Value × Value)) :
    writtenEntries entries = entries.map fun entry => (entry.1, written entry.2) := by
  induction entries with
  | nil => rfl
  | cons entry rest ih =>
    rw [writtenEntries, ih]
    rfl

/-- Writing the values of a map keeps its keys. -/
theorem map_fst_writtenEntries (entries : List (Value × Value)) :
    (writtenEntries entries).map Prod.fst = entries.map Prod.fst := by
  rw [writtenEntries_eq_map, List.map_map]
  rfl

/-- What is written with entries can be written when this holds for each of them. -/
theorem fit_writtenWithEntries {entries : List (Value × Value)} :
    Fit (writtenWithEntries entries) ↔ ∀ entry ∈ entries, Fit (writtenWith entry.2) := by
  induction entries with
  | nil => exact iff_of_true fit_nil (List.forall_mem_nil _)
  | cons entry rest ih => rw [writtenWithEntries, fit_append, ih, List.forall_mem_cons]

/-- What holds for all written entries, in terms of the entries. -/
theorem forall_mem_writtenEntries {entries : List (Value × Value)}
    {p : Value × Except Fault String → Prop} :
    (∀ entry ∈ writtenEntries entries, p entry) ↔
      ∀ entry ∈ entries, p (entry.1, written entry.2) := by
  rw [writtenEntries_eq_map, List.forall_mem_map]

mutual

/-- A value is written exactly when all values within it are fit for it. -/
theorem decides_written (v : Value) : Decides (Fit (writtenWith v)) (written v) := by
  match v with
  | null | bool _ | int _ | float _ | text _ | member _ =>
    exact (fit_singleton (by simp)).2 (exists_plainText (by simp))
  | complex .. | bytes _ | path _ | set _ | record .. =>
    exact ((decides_plainText _).map _).of_iff (fit_singleton (by simp)).symm
  | list items =>
    rw [writtenWith, fit_cons (by simp) (by simp)]
    exact (decides_writtenItems items).map _
  | tuple items =>
    rw [writtenWith, fit_cons (by simp) (by simp)]
    exact (decides_writtenItems items).map _
  | map entries =>
    have hentries := decides_writtenEntries entries
    have hmap : Decides (FitKeys ((writtenEntries entries).map Prod.fst) ∧
        ∀ entry ∈ writtenEntries entries, ∃ s, entry.2 = .ok s)
          (writtenMap (writtenEntries entries)) :=
      decides_writtenMap <| forall_mem_writtenEntries.2 fun entry hentry =>
        (hentries entry hentry).of_iff (hentries entry hentry).iff_exists
    refine hmap.of_iff ?_
    rw [writtenWith, ← List.singleton_append, fit_append, fit_map, fit_writtenWithEntries,
      forall_mem_writtenEntries, map_fst_writtenEntries]
    exact and_congr_right' (forall₂_congr fun entry hentry =>
      (hentries entry hentry).iff_exists.symm)
termination_by structural v

/-- Items are written when all that is written with them can be. -/
theorem decides_writtenItems (items : List Value) :
    Decides (Fit (writtenWithItems items)) (writtenItems items) := by
  match items with
  | [] => exact fit_nil
  | v :: rest =>
    rw [writtenWithItems, fit_append]
    exact (decides_written v).bind fun part _ => (decides_writtenItems rest).bind_pure (part :: ·)
termination_by structural items

/-- Each value of a map is written when all that is written with it can be. -/
theorem decides_writtenEntries (entries : List (Value × Value)) :
    ∀ entry ∈ entries, Decides (Fit (writtenWith entry.2)) (written entry.2) := by
  match entries with
  | [] => simp
  | (k, v) :: rest =>
    exact List.forall_mem_cons.2 ⟨decides_written v, decides_writtenEntries rest⟩
termination_by structural entries

end

end PackageBuild.Value
