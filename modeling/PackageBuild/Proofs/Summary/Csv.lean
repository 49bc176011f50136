import PackageBuild.Summary.Csv.Reader

/-!
# Tables read back

A reader stays in step with the writer of a table as long as every field survives: a field between
quotes always does, and a bare one does when it holds nothing that the reader takes for the end of a
record.

Main results:

- Theorem `read_encodeField`: a surviving field is read, and the reader stands behind it.
- Theorem `exists_read_of_not_survives`: a field that does not survive is cut short.
- Theorem `decodeTable_encodeTable_iff`: a table is read back exactly when all its fields survive.
-/

namespace PackageBuild.Summary.Csv

/-- A field is written such that a reader finds no end of a record in it. -/
def Survives (e : RecordEnd) (field : List Char) : Prop :=
  field.any isSpecial = true ∨ ∀ c ∈ field, e.accepts c = false

instance (e : RecordEnd) (field : List Char) : Decidable (Survives e field) :=
  decidable_of_iff ((field.any isSpecial || field.all fun c => !e.accepts c) = true)
    (by simp [Survives])

/-- What a text behind a field begins with. -/
def Closes (rest : List Char) : Prop := ∃ later, rest = ',' :: later ∨ rest = '\n' :: later

/-- Readers that end records at line feeds only lose no field. -/
theorem survives_lineFeed (field : List Char) : Survives .lineFeed field := by
  by_cases h : field.any isSpecial = true
  · exact .inl h
  · refine .inr fun c hc => ?_
    have hspecial : isSpecial c = false := by
      simpa using fun hs => h (List.any_eq_true.2 ⟨c, hc, hs⟩)
    simp only [isSpecial, Bool.or_eq_false_iff] at hspecial
    exact hspecial.2

/-! ## One field -/

section Field

variable {e : RecordEnd} {rest : List Char}

/-- Behind a field it does not matter whether the field had quotes. -/
theorem read_plain_of_closes (h : Closes rest) : read e .plain rest = read e .field rest := by
  obtain ⟨later, rfl | rfl⟩ := h <;> rfl

/-- Behind a closing quote the field ends. -/
theorem read_quote_of_closes (h : Closes rest) : read e .quote rest = read e .field rest := by
  obtain ⟨later, rfl | rfl⟩ := h <;> rfl

/-- Between quotes a text is read as it is, up to the quote that ends it. -/
theorem read_doubleQuotes (e : RecordEnd) (s rest : List Char) :
    read e .quoted (doubleQuotes s ++ '\x22' :: rest) = s.foldr addChar (read e .quote rest) := by
  induction s with
  | nil => rfl
  | cons c s ih =>
    by_cases hc : c = '\x22'
    · subst hc
      exact congrArg (addChar '\x22') ih
    · have hdouble : doubleQuotes (c :: s) = c :: doubleQuotes s := by
        simp [doubleQuotes, hc]
      rw [hdouble, List.cons_append, read_special_of_quoted e hc, ih, List.foldr_cons]

/-- Outside of quotes a text without commas and ends of records is read as it is. -/
theorem read_bare {s : List Char} (hspecial : s.any isSpecial = false)
    (haccepts : ∀ c ∈ s, e.accepts c = false) (rest : List Char) :
    read e .plain (s ++ rest) = s.foldr addChar (read e .plain rest) := by
  induction s with
  | nil => rfl
  | cons c s ih =>
    simp only [List.any_cons, Bool.or_eq_false_iff] at hspecial
    have hcomma : c ≠ ',' := by
      rintro rfl
      exact absurd hspecial.1 (by decide)
    have hstep : read e .plain (c :: (s ++ rest)) = addChar c (read e .plain (s ++ rest)) := by
      simp [read, act, outside, hcomma, haccepts c List.mem_cons_self]
    rw [List.cons_append, hstep, ih hspecial.2 fun d hd => haccepts d (List.mem_cons_of_mem _ hd),
      List.foldr_cons]

/-- In front of a field, a character that is no quote counts as one inside of it. -/
theorem read_field_cons {c : Char} (h : c ≠ '\x22') (rest : List Char) :
    read e .field (c :: rest) = read e .plain (c :: rest) := by
  simp [read, act, atField, h]

/-- A field without special characters is read as it stands. -/
theorem read_field_bare {s : List Char} (hspecial : s.any isSpecial = false) (rest : List Char)
    (h : Closes rest ∨ s ≠ []) : read e .field (s ++ rest) = read e .plain (s ++ rest) := by
  cases s with
  | nil => exact (read_plain_of_closes (h.resolve_right fun hne => hne rfl)).symm
  | cons c s =>
    refine read_field_cons ?_ _
    rintro rfl
    exact absurd hspecial (by simp [isSpecial])

/-- A surviving field is read, and then the reader stands behind it. -/
theorem read_encodeField {field : List Char} (h : Survives e field) (hrest : Closes rest) :
    read e .field (encodeField field ++ rest) = field.foldr addChar (read e .field rest) := by
  by_cases hspecial : field.any isSpecial = true
  · calc
      read e .field (encodeField field ++ rest)
        = read e .quoted (doubleQuotes field ++ '\x22' :: rest) := by
          simp [encodeField, hspecial, read, act, atField]
      _ = field.foldr addChar (read e .field rest) := by
          rw [read_doubleQuotes, read_quote_of_closes hrest]
  · have haccepts := h.resolve_left hspecial
    rw [Bool.not_eq_true] at hspecial
    rw [encodeField_of_plain hspecial, read_field_bare hspecial rest (.inl hrest),
      read_bare hspecial haccepts, read_plain_of_closes hrest]

/-- A field that does not survive holds the end of a record behind its first characters. -/
theorem exists_append_of_not_survives {field : List Char} (h : ¬Survives e field) :
    field.any isSpecial = false ∧ ∃ front c back, field = front ++ c :: back ∧
      (∀ d ∈ front, e.accepts d = false) ∧ e.accepts c = true := by
  simp only [Survives, not_or, Bool.not_eq_true] at h
  have hfound : field.find? e.accepts ≠ none := by
    rw [ne_eq, List.find?_eq_none]
    exact fun hnone => h.2 fun c hc => by simpa using hnone c hc
  obtain ⟨c, hc⟩ := Option.ne_none_iff_exists'.1 hfound
  obtain ⟨haccepts, front, back, hfield, hfront⟩ := List.find?_eq_some_iff_append.1 hc
  exact ⟨h.1, front, c, back, hfield, fun d hd => by simpa using hfront d hd, haccepts⟩

/-- Characters are put in front of the first field. -/
theorem foldr_addChar (s field : List Char) (fields : List (List Char))
    (records : List (List (List Char))) :
    s.foldr addChar ((field :: fields) :: records) = ((s ++ field) :: fields) :: records := by
  induction s with
  | nil => rfl
  | cons c s ih => rw [List.foldr_cons, ih, addChar, List.cons_append]

/-- A field that does not survive is cut short, and its record ends with it. -/
theorem exists_read_of_not_survives {field : List Char} (h : ¬Survives e field)
    (rest : List Char) : ∃ front later,
      read e .field (encodeField field ++ rest) = [front] :: later ∧
        front.length < field.length := by
  obtain ⟨hspecial, front, c, back, rfl, hfront, hc⟩ := exists_append_of_not_survives h
  have hparts : front.any isSpecial = false ∧ c ≠ ',' := by
    simp only [List.any_append, List.any_cons, Bool.or_eq_false_iff] at hspecial
    refine ⟨hspecial.1, ?_⟩
    rintro rfl
    exact absurd hspecial.2.1 (by decide)
  refine ⟨front, read e (.record (c == '\r')) (back ++ rest), ?_, by simp⟩
  rw [encodeField_of_plain hspecial, read_field_bare hspecial rest (.inr (by simp)),
    List.append_assoc, read_bare hparts.1 hfront, List.cons_append]
  have hclose : read e .plain (c :: (back ++ rest)) =
      [[]] :: read e (.record (c == '\r')) (back ++ rest) := by
    simp [read, act, outside, hparts.2, hc]
  rw [hclose, foldr_addChar, List.append_nil]

end Field

/-! ## One record -/

section Record

variable {e : RecordEnd} {fields : List (List Char)} {rest : List Char}

theorem encodeFields_cons (field next : List Char) (fields : List (List Char)) :
    encodeFields (field :: next :: fields) =
      encodeField field ++ ',' :: encodeFields (next :: fields) := rfl

theorem read_comma (e : RecordEnd) (rest : List Char) :
    read e .field (',' :: rest) = addField (read e .field rest) := rfl

theorem read_lineFeed (e : RecordEnd) (rest : List Char) :
    read e .field ('\n' :: rest) = [[]] :: read e (.record false) rest := by
  cases e <;> rfl

/-- Inside a record a reader finds a field, whatever follows. -/
theorem exists_read_of_inside {place : ReaderState} (h : ∀ afterReturn, place ≠ .record afterReturn)
    (s : List Char) : ∃ field fields records, read e place s = (field :: fields) :: records := by
  induction s generalizing place with
  | nil =>
    cases place with
    | record afterReturn => exact absurd rfl (h afterReturn)
    | _ => exact ⟨[], [], [], rfl⟩
  | cons c s ih =>
    have hadd (next : ReaderState) (hnext : ∀ afterReturn, next ≠ .record afterReturn) :
        ∃ field fields records, addChar c (read e next s) = (field :: fields) :: records := by
      obtain ⟨field, fields, records, hread⟩ := ih hnext
      exact ⟨c :: field, fields, records, by rw [hread, addChar]⟩
    have houtside (hread : read e place (c :: s) = read e .plain (c :: s)) :
        ∃ field fields records, read e place (c :: s) = (field :: fields) :: records := by
      rw [hread]
      by_cases hcomma : c = ','
      · obtain ⟨field, fields, records, hfield⟩ := @ih .field (by simp)
        exact ⟨[], field :: fields, records, by simp [read, act, outside, hcomma, hfield, addField]⟩
      · by_cases hc : e.accepts c = true
        · exact ⟨[], [], read e (.record (c == '\r')) s, by simp [read, act, outside, hcomma, hc]⟩
        · obtain ⟨field, fields, records, hplain⟩ := hadd .plain (by simp)
          exact ⟨field, fields, records, by simp [read, act, outside, hcomma, hc, hplain]⟩
    by_cases hquote : c = '\x22'
    · subst hquote
      cases place with
      | record afterReturn => exact absurd rfl (h afterReturn)
      | field => exact @ih .quoted (by simp)
      | plain => exact houtside rfl
      | quoted => exact @ih .quote (by simp)
      | quote => exact hadd .quoted (by simp)
    · cases place with
      | record afterReturn => exact absurd rfl (h afterReturn)
      | field => exact houtside (read_field_cons hquote s)
      | plain => exact houtside rfl
      | quoted =>
        rw [read_special_of_quoted e hquote]
        exact hadd .quoted (by simp)
      | quote => exact houtside (by simp [read, act, hquote])

/-- A record of surviving fields is read. -/
theorem read_encodeFields (hne : fields ≠ []) (h : ∀ field ∈ fields, Survives e field) :
    read e .field (encodeFields fields ++ '\n' :: rest) =
      fields :: read e (.record false) rest := by
  induction fields with
  | nil => contradiction
  | cons field fields ih =>
    have hfield := h field List.mem_cons_self
    cases fields with
    | nil =>
      rw [encodeFields, read_encodeField hfield ⟨rest, .inr rfl⟩, read_lineFeed, foldr_addChar,
        List.append_nil]
    | cons next fields =>
      rw [encodeFields_cons, List.append_assoc, List.cons_append,
        read_encodeField hfield ⟨_, .inl rfl⟩, read_comma,
        ih (by simp) fun f hf => h f (List.mem_cons_of_mem _ hf), addField, foldr_addChar,
        List.append_nil]

/-- A record that is read back has surviving fields only. -/
theorem survives_of_read {later : List (List (List Char))}
    (h : read e .field (encodeFields fields ++ '\n' :: rest) = fields :: later) :
    ∀ field ∈ fields, Survives e field := by
  induction fields generalizing later with
  | nil => simp
  | cons field fields ih =>
    have hfield : Survives e field := by
      by_cases hsurvives : Survives e field
      · exact hsurvives
      · obtain ⟨front, later', hread, hlength⟩ : ∃ front later',
            read e .field (encodeFields (field :: fields) ++ '\n' :: rest) = [front] :: later' ∧
              front.length < field.length := by
          cases fields with
          | nil => exact exists_read_of_not_survives hsurvives _
          | cons next fields =>
            rw [encodeFields_cons, List.append_assoc]
            exact exists_read_of_not_survives hsurvives _
        rw [hread] at h
        simp only [List.cons.injEq] at h
        rw [h.1.1] at hlength
        exact absurd hlength (Nat.lt_irrefl _)
    cases fields with
    | nil => simpa using hfield
    | cons next fields =>
      rw [encodeFields_cons, List.append_assoc, List.cons_append,
        read_encodeField hfield ⟨_, .inl rfl⟩, read_comma] at h
      obtain ⟨found, more, records, hread⟩ := @exists_read_of_inside e .field
        (by simp) (encodeFields (next :: fields) ++ '\n' :: rest)
      rw [hread, addField, foldr_addChar, List.append_nil] at h
      simp only [List.cons.injEq, true_and] at h
      obtain ⟨⟨rfl, rfl⟩, rfl⟩ := h
      intro f hf
      rcases List.mem_cons.1 hf with rfl | hf
      · exact hfield
      · exact ih hread f hf

end Record

/-! ## The whole table -/

section Table

variable {e : RecordEnd}

/-- In front of a record, a character that ends none is the first one of a field. -/
theorem read_record_cons {c : Char} (h : e.accepts c = false) (rest : List Char) :
    read e (.record false) (c :: rest) = read e .field (c :: rest) := by
  simp [read, act, h]

/-- A record that is not blank begins with a field. -/
theorem read_field_of_read_record {fields : List (List Char)} {later : List (List (List Char))}
    {s : List Char} (hne : fields ≠ []) (h : read e (.record false) s = fields :: later) :
    read e .field s = fields :: later := by
  cases s with
  | nil => contradiction
  | cons c s =>
    by_cases hc : e.accepts c = true
    · simp only [read, act, hc, Bool.false_and, if_true] at h
      exact absurd (List.cons.inj h).1.symm hne
    · rw [Bool.not_eq_true] at hc
      rw [← read_record_cons hc]
      exact h

/-- A record of two fields or more does not begin with the end of one. -/
theorem read_record_encodeFields {field next : List Char} {fields : List (List Char)}
    (h : Survives e field) (rest : List Char) :
    read e (.record false) (encodeFields (field :: next :: fields) ++ rest) =
      read e .field (encodeFields (field :: next :: fields) ++ rest) := by
  have hhead : ∃ c s, encodeField field ++ [','] = c :: s ∧ e.accepts c = false := by
    by_cases hspecial : field.any isSpecial = true
    · exact ⟨'\x22', doubleQuotes field ++ ['\x22', ','], by simp [encodeField, hspecial],
        by cases e <;> rfl⟩
    · rw [encodeField_of_plain (by simpa using hspecial)]
      cases field with
      | nil => exact ⟨',', [], rfl, by cases e <;> rfl⟩
      | cons c s => exact ⟨c, s ++ [','], rfl, h.resolve_left hspecial c List.mem_cons_self⟩
  obtain ⟨c, s, hcons, hc⟩ := hhead
  have hfields : encodeFields (field :: next :: fields) ++ rest =
      c :: (s ++ (encodeFields (next :: fields) ++ rest)) := by
    calc
      encodeFields (field :: next :: fields) ++ rest
        = (encodeField field ++ [',']) ++ (encodeFields (next :: fields) ++ rest) := by
          simp [encodeFields]
      _ = c :: (s ++ (encodeFields (next :: fields) ++ rest)) := by rw [hcons, List.cons_append]
  rw [hfields, read_record_cons hc]

/-- A table of records with two fields or more is read back exactly when all fields survive. -/
theorem decodeTable_encodeTable_iff {table : List (List (List Char))}
    (hwide : ∀ fields ∈ table, 2 ≤ fields.length) :
    decodeTable e (encodeTable table) = table ↔
      ∀ fields ∈ table, ∀ field ∈ fields, Survives e field := by
  unfold decodeTable
  induction table with
  | nil => simp [encodeTable]
  | cons fields table ih =>
    have hrest := ih fun fields hfields => hwide fields (List.mem_cons_of_mem _ hfields)
    have hlength := hwide fields List.mem_cons_self
    have hencode : encodeTable (fields :: table) =
        encodeFields fields ++ '\n' :: encodeTable table := by
      simp [encodeTable, encodeRecord]
    have hne : fields ≠ [] := by
      rintro rfl
      exact absurd hlength (by decide)
    rw [hencode, List.forall_mem_cons]
    constructor
    · intro h
      have hread := read_field_of_read_record hne h
      have hfields := survives_of_read hread
      rw [read_encodeFields hne hfields] at hread
      exact ⟨hfields, hrest.1 (List.cons.inj hread).2⟩
    · rintro ⟨hfields, htable⟩
      obtain ⟨field, next, more, rfl⟩ : ∃ field next more, fields = field :: next :: more := by
        match fields, hlength with
        | field :: next :: more, _ => exact ⟨field, next, more, rfl⟩
      rw [read_record_encodeFields (hfields field List.mem_cons_self),
        read_encodeFields hne hfields, hrest.2 htable]

end Table

end PackageBuild.Summary.Csv
