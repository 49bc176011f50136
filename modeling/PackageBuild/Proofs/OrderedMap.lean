import Mathlib.Data.List.Induction
import Mathlib.Data.List.Nodup
import Mathlib.Data.List.Perm.Subperm
import PackageBuild.OrderedMap

/-!
# Laws of insertion-ordered maps

What filtering a map and applying a function to its values do to the map as a function and to its
keys, and what a map holds that is filled with different keys.

Main results:

- Theorems `find?_mapValues` and `find?_filter`: both operations as functions of the key.
- Theorems `mem_keys_iff` and `notMem_keys_iff`: the keys are those that have a value.
- Theorems `perm_of_sameMap` and `find?_eq_of_perm`: equal maps have the same entries and are the
  same function.
- Theorem `entries_ofList`: a map of entries with different keys.
- Theorems `keys_ofList` and `find?_ofList_eq`: the keys of a map of any entries, each with the
  value that is met last.
-/

namespace PackageBuild.OrderedMap

variable {κ α β : Type}

/-! ## Keys and values -/

theorem entries_mapValues (f : α → β) (m : OrderedMap κ α) :
    (m.mapValues f).entries = m.entries.map fun entry => (entry.1, f entry.2) := rfl

/-- Mapping values keeps the keys. -/
theorem keys_mapValues (f : α → β) (m : OrderedMap κ α) : (m.mapValues f).keys = m.keys := by
  simp [keys, mapValues, Function.comp_def]

theorem values_mapValues (f : α → β) (m : OrderedMap κ α) :
    (m.mapValues f).values = m.values.map f := by
  simp [values, mapValues, Function.comp_def]

theorem size_mapValues (f : α → β) (m : OrderedMap κ α) : (m.mapValues f).size = m.size := by
  simp [size, mapValues]

/-- There are as many values as entries. -/
theorem length_values (m : OrderedMap κ α) : m.values.length = m.size := by
  simp [values, size]

theorem nodup_keys (m : OrderedMap κ α) : m.keys.Nodup := m.nodup

/-! ## The map as a function -/

variable [DecidableEq κ]

/-- A key is one of the map exactly when it has a value. -/
theorem mem_keys_iff {m : OrderedMap κ α} {key : κ} :
    key ∈ m.keys ↔ ∃ value, m.find? key = some value := by
  rw [← contains_iff, contains, Option.isSome_iff_exists]

/-- All other keys have none. -/
theorem notMem_keys_iff {m : OrderedMap κ α} {key : κ} : key ∉ m.keys ↔ m.find? key = none := by
  rw [← contains_iff, contains, Bool.not_eq_true, Option.isSome_eq_false_iff,
    Option.isNone_iff_eq_none]

/-- What a key has is one of the values. -/
theorem mem_values_of_find? {m : OrderedMap κ α} {key : κ} {value : α}
    (h : m.find? key = some value) : value ∈ m.values :=
  List.mem_map_of_mem (mem_entries_iff.2 h)

/-- When each key has the value that a function gives it, the entries are made by the function. -/
theorem entries_eq_of_find? {m : OrderedMap κ α} {f : κ → α}
    (h : ∀ key ∈ m.keys, m.find? key = some (f key)) :
    m.entries = m.keys.map fun key => (key, f key) := by
  rw [keys, List.map_map]
  refine (List.map_id m.entries).symm.trans (List.map_congr_left fun entry hentry => ?_)
  have hvalue : m.find? entry.1 = some entry.2 := mem_entries_iff.1 hentry
  rw [h entry.1 (List.mem_map_of_mem hentry), Option.some.injEq] at hvalue
  exact Prod.ext rfl hvalue.symm

/-- Maps with the same entries are the same function of the key. -/
theorem find?_eq_of_perm {m n : OrderedMap κ α} (h : m.entries.Perm n.entries) (key : κ) :
    m.find? key = n.find? key := by
  apply Option.ext
  intro value
  rw [← mem_entries_iff, ← mem_entries_iff]
  exact h.mem_iff

/-- Equal maps have the same entries, when equal values are the same. -/
theorem perm_of_sameMap {eq : α → α → Bool} {m n : OrderedMap κ α}
    (heq : ∀ x ∈ m.values, ∀ y ∈ n.values, eq x y = true → x = y) (h : sameMap eq m n = true) :
    m.entries.Perm n.entries := by
  rw [sameMap, Bool.and_eq_true, beq_iff_eq, List.all_eq_true] at h
  obtain ⟨hsize, hentries⟩ := h
  have hsub : m.entries ⊆ n.entries := by
    rintro ⟨key, value⟩ hentry
    have hfound := hentries _ hentry
    split at hfound
    · next other hother =>
      have hvalue : value ∈ m.values := List.mem_map_of_mem hentry
      rw [heq value hvalue other (mem_values_of_find? hother) hfound]
      exact mem_entries_iff.2 hother
    · contradiction
  have hnodup : m.entries.Nodup := List.Nodup.of_map Prod.fst m.nodup
  exact (hnodup.subperm hsub).perm_of_length_le (Nat.le_of_eq hsize.symm)

/-- An insertion adds its key to the others. -/
theorem mem_keys_insert_iff {m : OrderedMap κ α} {key other : κ} {value : α} :
    other ∈ (m.insert key value).keys ↔ other = key ∨ other ∈ m.keys := by
  rw [mem_keys_iff, mem_keys_iff, find?_insert]
  by_cases h : other = key <;> simp [h]

/-- A new key stands behind all others. -/
theorem entries_insert_of_not_contains {m : OrderedMap κ α} {key : κ} (value : α)
    (h : m.contains key = false) : (m.insert key value).entries = m.entries ++ [(key, value)] := by
  simp [insert, h]

/-- A known key keeps its place. -/
theorem entries_insert_of_contains {m : OrderedMap κ α} {key : κ} (value : α)
    (h : m.contains key = true) : (m.insert key value).entries = replaceIn key value m.entries := by
  simp [insert, h]

/-- Entries with different new keys stand behind those before, in their order. -/
theorem entries_foldl_insert {entries : List (κ × α)} {m : OrderedMap κ α}
    (h : (m.keys ++ entries.map Prod.fst).Nodup) :
    (entries.foldl (fun m entry => m.insert entry.1 entry.2) m).entries = m.entries ++ entries := by
  induction entries generalizing m with
  | nil => simp
  | cons entry rest ih =>
    obtain ⟨key, value⟩ := entry
    have hnew : m.contains key = false := by
      rw [Bool.eq_false_iff, ne_eq, contains_iff]
      exact fun hkey => (List.nodup_append.1 h).2.2 key hkey key List.mem_cons_self rfl
    rw [List.foldl_cons, ih, entries_insert_of_not_contains value hnew, List.append_assoc,
      List.singleton_append]
    rwa [keys_insert_of_not_contains value hnew, List.append_assoc, List.singleton_append]

/-- A map of entries with different keys has just these entries. -/
theorem entries_ofList {entries : List (κ × α)} (h : (entries.map Prod.fst).Nodup) :
    (ofList entries).entries = entries :=
  entries_foldl_insert h

/-- A map of entries with different keys has the value of each of them. -/
theorem find?_ofList {entries : List (κ × α)} (h : (entries.map Prod.fst).Nodup) {key : κ}
    {value : α} (hentry : (key, value) ∈ entries) : (ofList entries).find? key = some value := by
  rwa [← mem_entries_iff, entries_ofList h]

/-- Mapping values maps what is found. -/
theorem findIn?_map (f : α → β) (key : κ) (entries : List (κ × α)) :
    findIn? key (entries.map fun entry => (entry.1, f entry.2)) = (findIn? key entries).map f := by
  induction entries with
  | nil => rfl
  | cons entry rest ih =>
    by_cases h : entry.1 = key
    · simp [findIn?, h]
    · simp [findIn?, h, ih]

/-- Every value of the new map is that of the old one with the function applied. -/
theorem find?_mapValues (f : α → β) (m : OrderedMap κ α) (key : κ) :
    (m.mapValues f).find? key = (m.find? key).map f :=
  findIn?_map f key m.entries

/-- A value is kept exactly when its entry passes the test. -/
theorem find?_filter (p : κ → α → Bool) (m : OrderedMap κ α) (key : κ) :
    (m.filter p).find? key = (m.find? key).filter (p key) := by
  apply Option.ext
  intro value
  rw [← mem_entries_iff, Option.filter_eq_some_iff, ← mem_entries_iff]
  simp [filter]

/-! ## Maps of entries with any keys -/

/-- A list with one more entry makes a map with this entry inserted. -/
theorem ofList_append_singleton (entries : List (κ × α)) (entry : κ × α) :
    ofList (entries ++ [entry]) = (ofList entries).insert entry.1 entry.2 := by
  rw [ofList, List.foldl_append]
  rfl

/-- The keys stand in the order in which they are first met. -/
theorem keys_ofList (entries : List (κ × α)) :
    (ofList entries).keys = (entries.map Prod.fst).eraseDups := by
  induction entries using List.reverseRecOn with
  | nil => rfl
  | append_singleton entries entry ih =>
    have hknown : (ofList entries).contains entry.1 = true ↔ entry.1 ∈ entries.map Prod.fst := by
      rw [contains_iff, ih, List.mem_eraseDups]
    rw [ofList_append_singleton, List.map_append, List.eraseDups_append, ← ih]
    by_cases h : entry.1 ∈ entries.map Prod.fst
    · rw [keys_insert_of_contains entry.2 (hknown.2 h)]
      simp only [List.mem_map] at h
      simp [List.removeAll, h]
    · rw [keys_insert_of_not_contains entry.2 (Bool.eq_false_iff.2 (mt hknown.1 h))]
      simp only [List.mem_map] at h
      simp [List.removeAll, h, List.eraseDups_cons]

/-- Each key has the value that is met last. -/
theorem find?_ofList_eq (entries : List (κ × α)) (key : κ) :
    (ofList entries).find? key = findIn? key entries.reverse := by
  induction entries using List.reverseRecOn with
  | nil => rfl
  | append_singleton entries entry ih =>
    rw [ofList_append_singleton, find?_insert, ih, List.reverse_append]
    by_cases h : key = entry.1
    · simp [findIn?, h]
    · simp [findIn?, h, Ne.symm h]

/-- A value can be changed before or after it is put into a map. -/
theorem insert_mapValues (f : α → β) (m : OrderedMap κ α) (key : κ) (value : α) :
    (m.mapValues f).insert key (f value) = (m.insert key value).mapValues f := by
  have hcontains : (m.mapValues f).contains key = m.contains key := by
    rw [contains, find?_mapValues, Option.isSome_map, contains]
  refine ext_entries ?_
  cases h : m.contains key with
  | true =>
    rw [entries_insert_of_contains _ (hcontains.trans h), entries_mapValues, entries_mapValues,
      entries_insert_of_contains value h, replaceIn, replaceIn, List.map_map, List.map_map]
    refine List.map_congr_left fun entry _ => ?_
    simp only [Function.comp_apply]
    split <;> rfl
  | false =>
    rw [entries_insert_of_not_contains _ (hcontains.trans h), entries_mapValues, entries_mapValues,
      entries_insert_of_not_contains value h, List.map_append, List.map_singleton]

/-- Mapping values may come before making the map. -/
theorem ofList_map (f : α → β) (entries : List (κ × α)) :
    ofList (entries.map fun entry => (entry.1, f entry.2)) = (ofList entries).mapValues f := by
  induction entries using List.reverseRecOn with
  | nil => rfl
  | append_singleton entries entry ih =>
    rw [List.map_append, List.map_singleton, ofList_append_singleton, ofList_append_singleton, ih,
      insert_mapValues]

end PackageBuild.OrderedMap
