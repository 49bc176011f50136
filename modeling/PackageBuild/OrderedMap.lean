/-!
# Insertion-ordered maps

A finite map that remembers the order in which its keys were first inserted.

Main results:

- `find?_insert` and `find?_insertNew` say what each operation does to the map as a function.
- `keys_insert_of_contains`: writing to a known key keeps all keys in their places.
- `mem_entries_iff`: the entries are the graph of `find?`.
-/

namespace PackageBuild

/-- A finite map whose entries stand in the order of the first insertion of their keys. -/
structure OrderedMap (κ : Type) (α : Type) where
  entries : List (κ × α)
  nodup : (entries.map Prod.fst).Nodup

namespace OrderedMap

variable {κ α β : Type}

/-- Two maps with the same entries are equal. -/
theorem ext_entries {m n : OrderedMap κ α} (h : m.entries = n.entries) : m = n := by
  cases m
  cases n
  cases h
  rfl

/-- The map without entries. -/
def empty : OrderedMap κ α := ⟨[], List.nodup_nil⟩

instance : Inhabited (OrderedMap κ α) := ⟨empty⟩

/-- The keys in order. -/
def keys (m : OrderedMap κ α) : List κ := m.entries.map Prod.fst

/-- The values in the order of their keys. -/
def values (m : OrderedMap κ α) : List α := m.entries.map Prod.snd

/-- The number of keys. -/
def size (m : OrderedMap κ α) : Nat := m.entries.length

variable [DecidableEq κ]

/-- The value in a list of entries that belongs to a key. -/
def findIn? (key : κ) : List (κ × α) → Option α
  | [] => none
  | (k, a) :: rest => if k = key then some a else findIn? key rest

/-- The value of a key. -/
def find? (m : OrderedMap κ α) (key : κ) : Option α := findIn? key m.entries

/-- Whether a key has a value. -/
def contains (m : OrderedMap κ α) (key : κ) : Bool := (m.find? key).isSome

/-- A key is found when an entry has it. -/
theorem findIn?_isSome {key : κ} {entries : List (κ × α)} :
    (findIn? key entries).isSome = true ↔ key ∈ entries.map Prod.fst := by
  induction entries with
  | nil => simp [findIn?]
  | cons entry rest ih =>
    obtain ⟨k, a⟩ := entry
    by_cases h : k = key
    · simp [findIn?, h]
    · simp [findIn?, h, ih, Ne.symm h]

/-- A map contains the keys of its entries. -/
theorem contains_iff {m : OrderedMap κ α} {key : κ} : m.contains key = true ↔ key ∈ m.keys :=
  findIn?_isSome

/-- A list of entries with the value of a key replaced. -/
def replaceIn (key : κ) (value : α) (entries : List (κ × α)) : List (κ × α) :=
  entries.map fun entry => if entry.1 = key then (entry.1, value) else entry

/-- Replacing a value keeps the keys. -/
theorem keys_replaceIn (key : κ) (value : α) (entries : List (κ × α)) :
    (replaceIn key value entries).map Prod.fst = entries.map Prod.fst := by
  simp only [replaceIn, List.map_map]
  refine List.map_congr_left fun entry _ => ?_
  simp only [Function.comp_apply]
  split <;> rfl

/-- A new key goes to the end; a known key keeps its place and gets the new value. -/
def insert (m : OrderedMap κ α) (key : κ) (value : α) : OrderedMap κ α :=
  if h : m.contains key = true then
    ⟨replaceIn key value m.entries, by rw [keys_replaceIn]; exact m.nodup⟩
  else
    ⟨m.entries ++ [(key, value)], by
      rw [contains_iff] at h
      rw [List.map_append, List.nodup_append]
      refine ⟨m.nodup, by simp, ?_⟩
      intro a ha b hb
      simp only [List.map_cons, List.map_nil, List.mem_singleton] at hb
      rintro rfl
      exact h (hb ▸ ha)⟩

/-- A new key goes to the end; a known key keeps its value. -/
def insertNew (m : OrderedMap κ α) (key : κ) (value : α) : OrderedMap κ α :=
  if m.contains key then m else m.insert key value

/-- The map of a list of entries, of which later ones overwrite earlier ones. -/
def ofList (entries : List (κ × α)) : OrderedMap κ α :=
  entries.foldl (fun m entry => m.insert entry.1 entry.2) empty

/-- The map without the entries that fail a test. -/
def filter (m : OrderedMap κ α) (p : κ → α → Bool) : OrderedMap κ α :=
  ⟨m.entries.filter fun entry => p entry.1 entry.2,
    (m.nodup.sublist (List.filter_sublist.map Prod.fst))⟩

/-- The map with a function applied to every value. -/
def mapValues (f : α → β) (m : OrderedMap κ α) : OrderedMap κ β :=
  ⟨m.entries.map fun entry => (entry.1, f entry.2), by
    rw [List.map_map]; exact m.nodup⟩

/-! ## What the operations do to the map as a function -/

@[simp] theorem find?_empty (key : κ) : (empty : OrderedMap κ α).find? key = none := rfl

/-- Replacing a value changes what is found for its key only. -/
theorem findIn?_replaceIn (key other : κ) (value : α) (entries : List (κ × α)) :
    findIn? other (replaceIn key value entries) =
      if other = key then (findIn? other entries).map fun _ => value
      else findIn? other entries := by
  induction entries with
  | nil => simp [replaceIn, findIn?]
  | cons entry rest ih =>
    obtain ⟨k, a⟩ := entry
    have step : replaceIn key value ((k, a) :: rest) =
        (if k = key then (k, value) else (k, a)) :: replaceIn key value rest := rfl
    rw [step]
    by_cases hk : k = other
    · subst hk
      by_cases ho : k = key <;> simp [findIn?, ho]
    · by_cases ho : k = key
      · subst ho; simp [findIn?, hk, ih]
      · simp [findIn?, hk, ho, ih]

/-- A key is found in the first of two lists that has it. -/
theorem findIn?_append (key : κ) (s t : List (κ × α)) :
    findIn? key (s ++ t) = (findIn? key s).or (findIn? key t) := by
  induction s with
  | nil => simp [findIn?]
  | cons entry rest ih =>
    by_cases h : entry.1 = key
    · simp [findIn?, h]
    · simp [findIn?, h, ih]

/-- After an insertion the key has the new value and every other key its old one. -/
theorem find?_insert (m : OrderedMap κ α) (key other : κ) (value : α) :
    (m.insert key value).find? other = if other = key then some value else m.find? other := by
  by_cases h : m.contains key = true
  · have hs : (findIn? key m.entries).isSome = true := h
    simp only [insert, h, dif_pos, find?, findIn?_replaceIn]
    split
    · next ho =>
      subst ho
      obtain ⟨a, ha⟩ := Option.isSome_iff_exists.1 hs
      simp [ha]
    · rfl
  · have hn : findIn? key m.entries = none := by
      simpa [contains, find?] using h
    rw [insert, dif_neg h]
    simp only [find?, findIn?_append]
    by_cases ho : other = key
    · subst ho; simp [hn, findIn?]
    · simp [ho, findIn?, Ne.symm ho]

/-- Only a key without a value gets the new one. -/
theorem find?_insertNew (m : OrderedMap κ α) (key other : κ) (value : α) :
    (m.insertNew key value).find? other =
      if other = key then (m.find? key).or (some value) else m.find? other := by
  by_cases h : m.contains key = true
  · have hs : (m.find? key).isSome = true := h
    obtain ⟨a, ha⟩ := Option.isSome_iff_exists.1 hs
    by_cases ho : other = key
    · subst ho; simp [insertNew, h, ha]
    · simp [insertNew, h, ho]
  · have hn : m.find? key = none := by simpa [contains] using h
    by_cases ho : other = key
    · subst ho; simp [insertNew, h, hn, find?_insert]
    · simp [insertNew, h, ho, find?_insert]

/-- Writing to a known key keeps all keys in their places. -/
theorem keys_insert_of_contains {m : OrderedMap κ α} {key : κ} (value : α)
    (h : m.contains key = true) : (m.insert key value).keys = m.keys := by
  simp [insert, h, keys, keys_replaceIn]

/-- A new key goes to the end. -/
theorem keys_insert_of_not_contains {m : OrderedMap κ α} {key : κ} (value : α)
    (h : m.contains key = false) : (m.insert key value).keys = m.keys ++ [key] := by
  simp [insert, h, keys]

/-- Of different keys every entry is found. -/
theorem find?_of_mem {entries : List (κ × α)} (nodup : (entries.map Prod.fst).Nodup)
    {key : κ} {value : α} (h : (key, value) ∈ entries) : findIn? key entries = some value := by
  induction entries with
  | nil => simp at h
  | cons entry rest ih =>
    obtain ⟨k, a⟩ := entry
    simp only [List.map_cons, List.nodup_cons] at nodup
    rcases List.mem_cons.1 h with h | h
    · cases h; simp [findIn?]
    · have : k ≠ key := by
        rintro rfl
        exact nodup.1 (List.mem_map_of_mem (f := Prod.fst) h)
      simp [findIn?, this, ih nodup.2 h]

/-- What is found is an entry. -/
theorem mem_of_findIn? {entries : List (κ × α)} {key : κ} {value : α}
    (h : findIn? key entries = some value) : (key, value) ∈ entries := by
  induction entries with
  | nil => simp [findIn?] at h
  | cons entry rest ih =>
    obtain ⟨k, a⟩ := entry
    by_cases hk : k = key
    · simp [findIn?, hk] at h; simp [hk, h]
    · simp only [findIn?, hk, if_neg, not_false_eq_true] at h
      exact List.mem_cons_of_mem _ (ih h)

/-- The entries are the graph of the map as a function. -/
theorem mem_entries_iff {m : OrderedMap κ α} {key : κ} {value : α} :
    (key, value) ∈ m.entries ↔ m.find? key = some value :=
  ⟨find?_of_mem m.nodup, mem_of_findIn?⟩

/-- Whether two maps have the same keys with equal values, in whatever order. -/
def sameMap (eq : α → α → Bool) (m n : OrderedMap κ α) : Bool :=
  m.size == n.size && m.entries.all fun entry =>
    match n.find? entry.1 with
    | some value => eq entry.2 value
    | none => false

end OrderedMap

end PackageBuild
