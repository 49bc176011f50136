import PackageBuild.LogFormat.Formatter
import PackageBuild.Proofs.OrderedMap
import PackageBuild.Proofs.Template.Named

/-!
# Identifiers on log lines

The filter notes the identifiers of the current span on a record, whatever was noted before: in
digits of a fixed width that read back as the identifiers, or nothing at all without a valid span.
So the usual lines of records that do not differ otherwise are different for different spans.

Main results:

- Theorem `find?_noteSpan`: what the filter leaves in each field.
- Theorem `fill_usual`: the usual line of fields that have a plain text.
- Theorem `format_noted`: the usual line of a record behind the filter.
- Theorem `spanText_eq_iff`: different spans are written differently.
- Theorem `noted_identifies_span`: what the filter notes, and when two lines are the same.
-/

namespace PackageBuild.LogFormat

variable {r : Record} {context? context'? : Option SpanContext} {c : SpanContext}
  {level message : String}

/-! ## Digits -/

/-- A lower-case hexadecimal digit. -/
def IsHexDigit (c : Char) : Prop := '0' ≤ c ∧ c ≤ '9' ∨ 'a' ≤ c ∧ c ≤ 'f'

instance : DecidablePred IsHexDigit := fun _ => inferInstanceAs (Decidable (_ ∨ _))

/-- A text of so many lower-case hexadecimal digits that writes a number. -/
structure HexSpelling (width n : Nat) (text : String) : Prop where
  length : text.toList.length = width
  digits : ∀ c ∈ text.toList, IsHexDigit c
  value : Text.readHex? text.toList = some n

/-- The digit of a number below sixteen is one. -/
theorem isHexDigit_hexDigit {n : Nat} (h : n < 16) : IsHexDigit (Text.hexDigit n) := by
  revert h
  revert n
  decide

/-- A number is written in digits only. -/
theorem isHexDigit_of_mem_hexFixed {width n : Nat} {c : Char} (h : c ∈ Text.hexFixed width n) :
    IsHexDigit c := by
  induction width generalizing n with
  | zero => cases h
  | succ width ih =>
    rcases List.mem_append.1 h with h | h
    · exact ih h
    · rw [List.mem_singleton.1 h]
      exact isHexDigit_hexDigit (Nat.mod_lt n (by decide))

/-- A number that its width holds is read back. -/
theorem readHex?_hexFixed_of_lt {width n : Nat} (h : n < Nat.pow 16 width) :
    Text.readHex? (Text.hexFixed width n) = some n := by
  rw [Text.readHex?_hexFixed, Nat.mod_eq_of_lt h]

/-- Numbers that a width holds are spelled in just so many digits. -/
theorem hexSpelling_hexFixed {width n : Nat} (h : n < Nat.pow 16 width) :
    HexSpelling width n (String.ofList (Text.hexFixed width n)) where
  length := by rw [String.toList_ofList, Text.length_hexFixed]
  digits c hc := by
    rw [String.toList_ofList] at hc
    exact isHexDigit_of_mem_hexFixed hc
  value := by rw [String.toList_ofList, readHex?_hexFixed_of_lt h]

/-- Different numbers that a width holds are spelled differently. -/
theorem hexFixed_injective {width m n : Nat} (hm : m < Nat.pow 16 width) (hn : n < Nat.pow 16 width)
    (h : Text.hexFixed width m = Text.hexFixed width n) : m = n := by
  rw [← Option.some_inj, ← readHex?_hexFixed_of_lt hm, h, readHex?_hexFixed_of_lt hn]

/-! ## Spans -/

/-- There is no span, or one of its identifiers is zero or too long. -/
def NoSpan : Option SpanContext → Prop
  | none => True
  | some c => c.trace = 0 ∨ Nat.pow 2 128 ≤ c.trace ∨ c.span = 0 ∨ Nat.pow 2 64 ≤ c.span

/-- The current span, if it is a valid one. -/
def validSpan? (context? : Option SpanContext) : Option SpanContext :=
  context?.filter SpanContext.isValid

/-- A span is valid when both its identifiers are. -/
theorem isValid_iff : c.isValid = true ↔ ¬ NoSpan (some c) := by
  simp only [SpanContext.isValid, NoSpan, Bool.and_eq_true, decide_eq_true_eq]
  omega

/-- The trace of a valid span fits in thirty-two digits. -/
theorem trace_lt (h : c.isValid = true) : c.trace < Nat.pow 16 32 := by
  simp only [SpanContext.isValid, Bool.and_eq_true, decide_eq_true_eq] at h
  exact h.1.1.2

/-- The number of a valid span fits in sixteen digits. -/
theorem span_lt (h : c.isValid = true) : c.span < Nat.pow 16 16 := by
  simp only [SpanContext.isValid, Bool.and_eq_true, decide_eq_true_eq] at h
  exact h.2

theorem validSpan?_eq_some_iff :
    validSpan? context? = some c ↔ context? = some c ∧ c.isValid = true :=
  Option.filter_eq_some_iff

/-- There is no valid span exactly when there is none at all or an invalid one. -/
theorem validSpan?_eq_none_iff : validSpan? context? = none ↔ NoSpan context? := by
  rw [validSpan?, Option.filter_eq_none_iff]
  cases context? with
  | none => simp [NoSpan]
  | some c => simp [isValid_iff]

/-- Two spans are the same valid one, or both are none. -/
theorem validSpan?_eq_iff : validSpan? context? = validSpan? context'? ↔
    NoSpan context? ∧ NoSpan context'? ∨ context? = context'? := by
  rw [← validSpan?_eq_none_iff, ← validSpan?_eq_none_iff]
  constructor
  · intro h
    cases hvalid : validSpan? context? with
    | none => exact .inl ⟨rfl, h ▸ hvalid⟩
    | some c =>
      have hother : validSpan? context'? = some c := h ▸ hvalid
      rw [(validSpan?_eq_some_iff.1 hvalid).1, (validSpan?_eq_some_iff.1 hother).1]
      exact .inr rfl
  · rintro (⟨h, h'⟩ | rfl)
    · rw [h, h']
    · rfl

/-! ## The filter -/

/-- The value of an identifier in so many digits, or nothing without a span. -/
def identifierOf (width : Nat) (id : SpanContext → Nat) : Option SpanContext → Value
  | some c => .text (String.ofList (Text.hexFixed width (id c)))
  | none => .null

/-- The filter writes an identifier of the span if this is valid. -/
theorem identifier_eq (width : Nat) (id : SpanContext → Nat) (c : SpanContext) :
    identifier c.isValid width (id c) = identifierOf width id (validSpan? (some c)) := by
  rw [identifier, validSpan?, Option.filter_some]
  split <;> rfl

/-- What the filter leaves in each field. -/
theorem find?_noteSpan (context? : Option SpanContext) (fields : Fields) (name : String) :
    (noteSpan context? fields).find? name =
      if name = spanField then some (identifierOf 16 SpanContext.span (validSpan? context?))
      else if name = traceField then some (identifierOf 32 SpanContext.trace (validSpan? context?))
      else fields.find? name := by
  cases context? with
  | none => simp only [noteSpan, OrderedMap.find?_insert]; rfl
  | some c => simp only [noteSpan, OrderedMap.find?_insert, identifier_eq]

/-- The trace that the filter leaves on a record. -/
theorem find?_noted_trace (context? : Option SpanContext) (r : Record) :
    (r.noted context?).fields.find? traceField =
      some (identifierOf 32 SpanContext.trace (validSpan? context?)) := by
  rw [Record.noted, find?_noteSpan, if_neg (by decide), if_pos rfl]

/-- The number of the span that the filter leaves on a record. -/
theorem find?_noted_span (context? : Option SpanContext) (r : Record) :
    (r.noted context?).fields.find? spanField =
      some (identifierOf 16 SpanContext.span (validSpan? context?)) := by
  rw [Record.noted, find?_noteSpan, if_pos rfl]

/-- All other fields stay as they are. -/
theorem find?_noted_of_ne {name : String} (htrace : name ≠ traceField) (hspan : name ≠ spanField)
    (context? : Option SpanContext) (r : Record) :
    (r.noted context?).fields.find? name = r.fields.find? name := by
  rw [Record.noted, find?_noteSpan, if_neg hspan, if_neg htrace]

/-- The values of all other fields stay as they are. -/
theorem field_noted_of_ne {name : String} (htrace : name ≠ traceField) (hspan : name ≠ spanField)
    (context? : Option SpanContext) (r : Record) :
    (r.noted context?).field name = r.field name := by
  rw [Record.field, Record.field, find?_noted_of_ne htrace hspan]

/-! ## Levels and messages -/

/-- The name of the field with the name of the level. -/
def levelField : String := "levelname"

/-- A field has a plain text. -/
def Shows (fields : Fields) (name text : String) : Prop :=
  ∃ v, fields.find? name = some v ∧ v.plainText = .ok text

/-- A record with a level and a message, without an exception and places. -/
structure Record.MessageOnly (r : Record) (level message : String) : Prop where
  level : Shows r.fields levelField level
  message : r.message = .ok message
  exception : (r.field exceptionField).isEmpty = true
  exceptionText : (r.field exceptionTextField).isEmpty = true
  stack : (r.field stackField).isEmpty = true

/-- The filter keeps the level and the message of a record, and adds nothing below the line. -/
theorem Record.MessageOnly.noted (h : r.MessageOnly level message) (context? : Option SpanContext) :
    (r.noted context?).MessageOnly level message where
  level := by
    rw [Shows, find?_noted_of_ne (by decide) (by decide)]
    exact h.level
  message := by
    rw [Record.message, field_noted_of_ne (by decide) (by decide),
      field_noted_of_ne (by decide) (by decide)]
    exact h.message
  exception := by
    rw [field_noted_of_ne (by decide) (by decide)]
    exact h.exception
  exceptionText := by
    rw [field_noted_of_ne (by decide) (by decide)]
    exact h.exceptionText
  stack := by
    rw [field_noted_of_ne (by decide) (by decide)]
    exact h.stack

/-- Such a record has its line alone. -/
theorem Record.MessageOnly.attach_eq (h : r.MessageOnly level message) (line : String) :
    Attachment.attach r line = .ok line := by
  simp [Attachment.attach, Attachment.textOf, Attachment.belowAny, Value.isTrue, h.exception,
    h.exceptionText, h.stack, bind, Except.bind]

/-- The record of a text, with identifiers that were noted on it before. -/
def Record.ofText (name level trace span : Value) (text : String) : Record :=
  .of name level ⟨.text text, []⟩ [(traceField, trace), (spanField, span)]

/-- The fields of such a record. -/
def textFields (name level trace span : Value) (text : String) : List (String × Value) :=
  [("name", name), (textField, .text text), (argumentsField, .tuple []),
    (levelField, levelName level), ("levelno", level), (exceptionField, .null),
    (exceptionTextField, .null), (stackField, .null), ("funcName", .null),
    ("threadName", .text "MainThread"), ("processName", .text "MainProcess"),
    (traceField, trace), (spanField, span)]

section

variable {name named trace span v : Value} {text key : String}

/-- The fields of the record of a text have different names. -/
theorem nodup_textFields : ((textFields name named trace span text).map Prod.fst).Nodup := by
  rw [textFields]
  simp only [List.map_cons, List.map_nil]
  decide

/-- Every field of the record of a text is found. -/
theorem find?_ofText (h : (key, v) ∈ textFields name named trace span text) :
    (Record.ofText name named trace span text).fields.find? key = some v := by
  have hfields : (Record.ofText name named trace span text).fields =
      .ofList (textFields name named trace span text) := by
    simp only [Record.ofText, Record.of]
    exact congrArg OrderedMap.ofList rfl
  rw [hfields]
  exact OrderedMap.find?_ofList nodup_textFields h

/-- Every field of the record of a text has its value. -/
theorem field_ofText (h : (key, v) ∈ textFields name named trace span text) :
    (Record.ofText name named trace span text).field key = v := by
  rw [Record.field, find?_ofText h, Option.getD_some]

/-- The record of a text has its level and the text, whatever was noted on it. -/
theorem Record.messageOnly_ofText (hlevel : (levelName named).plainText = .ok level) :
    (Record.ofText name named trace span text).MessageOnly level text where
  level := ⟨_, find?_ofText (by simp [textFields]), hlevel⟩
  message := by
    have htext : (textField, Value.text text) ∈ textFields name named trace span text := by
      simp [textFields]
    have harguments : (argumentsField, Value.tuple []) ∈ textFields name named trace span text := by
      simp [textFields]
    rw [Record.message, field_ofText htext, field_ofText harguments]
    rfl
  exception := by
    rw [field_ofText (v := .null) (by simp [textFields])]
    rfl
  exceptionText := by
    rw [field_ofText (v := .null) (by simp [textFields])]
    rfl
  stack := by
    rw [field_ofText (v := .null) (by simp [textFields])]
    rfl

end

/-! ## Lines -/

/-- An entry is found among all entries by the text of its name. -/
theorem find?_entryValues {name : String} {v : Value} {entries : List (String × Value)}
    (h : OrderedMap.findIn? name entries = some v) :
    (entries.map fun entry => (Value.text entry.1, entry.2)).find?
      (fun entry => entry.1.asText? == some name) = some (.text name, v) := by
  induction entries with
  | nil => cases h
  | cons entry rest ih =>
    rw [OrderedMap.findIn?] at h
    split at h
    · next hname =>
      cases h
      simp [hname, Value.asText?]
    · next hname =>
      rw [List.map_cons, List.find?_cons_of_neg (by simpa [Value.asText?] using hname)]
      exact ih h

/-- A field is found in the value of all of them. -/
theorem item_fieldsValue {fields : Fields} {name : String} {v : Value}
    (h : fields.find? name = some v) :
    Template.Supply.item name (Formatter.fieldsValue fields) = .ok v := by
  have hitem := find?_entryValues h
  simp only [Formatter.fieldsValue, Template.Supply.item]
  rw [hitem]

/-- The formatter of the usual template. -/
def Formatter.usual : Formatter := ⟨.ofChars traceTemplate.toList, false, .null⟩

/-- Without a template a formatter is made from the usual one. -/
theorem ofGiven?_none : Formatter.ofGiven? none = .ok Formatter.usual := rfl

open Template (plainDirective fillPieces)

/-- The usual template asks for four fields, with text between them. -/
theorem pieces_usual : Formatter.usual.template.pieces =
    .directive (plainDirective levelField 12) :: (" [trace_id=".toList.map .literal ++
      .directive (plainDirective traceField 35) :: (" span_id=".toList.map .literal ++
        .directive (plainDirective spanField 55) :: ("] ".toList.map .literal ++
          [.directive (plainDirective messageField 68)]))) := rfl

section

variable {fields : Fields} {name text trace span : String}

/-- A directive with the name of a field is filled in with its plain text. -/
theorem fillPieces_of_shows (h : Shows fields name text) (left : List Value) (index : Nat)
    (rest : List Piece) :
    fillPieces ⟨some (Formatter.fieldsValue fields), left⟩
        (.directive (plainDirective name index) :: rest) =
      (fillPieces ⟨some (Formatter.fieldsValue fields), []⟩ rest).map (text.toList ++ ·) := by
  obtain ⟨v, hv, htext⟩ := h
  exact Template.fillPieces_plain (item_fieldsValue hv) htext left index rest

/-- The usual line of fields that have a plain text. -/
theorem fill_usual (hlevel : Shows fields levelField level) (htrace : Shows fields traceField trace)
    (hspan : Shows fields spanField span) (hmessage : Shows fields messageField message) :
    Formatter.usual.template.fill (Formatter.fieldsValue fields) =
      .ok (String.ofList (level.toList ++ (" [trace_id=".toList ++ (trace.toList ++
        (" span_id=".toList ++ (span.toList ++ ("] ".toList ++ message.toList))))))) := by
  have hsupply : Template.Supply.ofValue (Formatter.fieldsValue fields) =
      ⟨some (Formatter.fieldsValue fields), [Formatter.fieldsValue fields]⟩ := rfl
  rw [Template.fill, pieces_usual, hsupply, fillPieces_of_shows hlevel,
    Template.fillPieces_literals,
    fillPieces_of_shows htrace, Template.fillPieces_literals, fillPieces_of_shows hspan,
    Template.fillPieces_literals, fillPieces_of_shows hmessage, Template.fillPieces_nil]
  simp only [Except.map, List.append_nil]

/-- Identifiers that are noted need no defaults. -/
theorem find?_withDefaults {t s : Value} (ht : fields.find? traceField = some t)
    (hs : fields.find? spanField = some s) (name : String) :
    (withDefaults fields).find? name = fields.find? name := by
  rw [withDefaults, OrderedMap.find?_insertNew, OrderedMap.find?_insertNew,
    OrderedMap.find?_insertNew]
  by_cases hspan : name = spanField
  · subst hspan
    rw [if_pos rfl, if_neg (by decide), hs]
    rfl
  · rw [if_neg hspan]
    by_cases htrace : name = traceField
    · subst htrace
      rw [if_pos rfl, ht]
      rfl
    · rw [if_neg htrace]

end

/-- An identifier as a line shows it. -/
def identifierText (width : Nat) (id : SpanContext → Nat) : Option SpanContext → List Char
  | some c => Text.hexFixed width (id c)
  | none => "None".toList

/-- The plain text of an identifier is the one that lines show. -/
theorem plainText_identifierOf (width : Nat) (id : SpanContext → Nat) (span? : Option SpanContext) :
    (identifierOf width id span?).plainText =
      .ok (String.ofList (identifierText width id span?)) := by
  cases span? <;> rfl

/-- The two identifiers as a line shows them. -/
def spanText (span? : Option SpanContext) : List Char :=
  identifierText 32 SpanContext.trace span? ++
    (" span_id=".toList ++ identifierText 16 SpanContext.span span?)

/-- The usual line of a level and a message. -/
def lineText (level message : String) (span? : Option SpanContext) : List Char :=
  level.toList ++ (" [trace_id=".toList ++ (spanText span? ++ ("] ".toList ++ message.toList)))

/-- The usual line of a record behind the filter. -/
theorem line_noted (h : r.MessageOnly level message) (context? : Option SpanContext) :
    Formatter.usual.line (r.noted context?) message =
      .ok (String.ofList (lineText level message (validSpan? context?))) := by
  have htrace := find?_noted_trace context? r
  have hspan := find?_noted_span context? r
  have hshows {name text : String} (hname : name ≠ messageField)
      (hshown : Shows (r.noted context?).fields name text) :
      Shows ((withDefaults (r.noted context?).fields).insert messageField (.text message)) name
        text := by
    rw [Shows, OrderedMap.find?_insert, if_neg hname, find?_withDefaults htrace hspan]
    exact hshown
  have hmessage : Shows ((withDefaults (r.noted context?).fields).insert messageField
      (.text message)) messageField message :=
    ⟨_, by rw [OrderedMap.find?_insert, if_pos rfl], rfl⟩
  have hfill := fill_usual (hshows (by decide) (h.noted context?).level)
    (hshows (by decide) ⟨_, htrace, plainText_identifierOf ..⟩)
    (hshows (by decide) ⟨_, hspan, plainText_identifierOf ..⟩) hmessage
  have htimed (fields : Fields) :
      Formatter.usual.timed (r.noted context?) fields = fields := if_neg Bool.false_ne_true
  rw [Formatter.line, htimed, hfill]
  simp only [lineText, spanText, String.toList_ofList, List.append_assoc]

/-- Nothing stands below that line. -/
theorem format_noted (h : r.MessageOnly level message) (context? : Option SpanContext) :
    Formatter.usual.format (r.noted context?) =
      .ok (String.ofList (lineText level message (validSpan? context?))) := by
  rw [Formatter.format, (h.noted context?).message]
  simp only [Attempt.mapError_ok, bind, Except.bind, line_noted h, (h.noted context?).attach_eq]

/-- Outside of all spans identifiers that were noted before are not shown. -/
example : Formatter.usual.format
    ((Record.ofText (.text "build") (.int Log.info) (.text "stale") (.int 7) "done").noted none) =
      .ok "INFO [trace_id=None span_id=None] done" := by
  rfl

/-! ## Different lines -/

/-- A span takes more room than none. -/
theorem length_spanText (span? : Option SpanContext) :
    (spanText span?).length = if span?.isSome then 57 else 17 := by
  cases span? <;> simp [spanText, identifierText]

/-- Different spans are written differently. -/
theorem spanText_eq_iff :
    spanText (validSpan? context?) = spanText (validSpan? context'?) ↔
      validSpan? context? = validSpan? context'? := by
  refine ⟨fun h => ?_, congrArg spanText⟩
  have hlength := congrArg List.length h
  rw [length_spanText, length_spanText] at hlength
  cases hs : validSpan? context? with
  | none =>
    cases ht : validSpan? context'? with
    | none => rfl
    | some d => simp [hs, ht] at hlength
  | some c =>
    cases ht : validSpan? context'? with
    | none => simp [hs, ht] at hlength
    | some d =>
      have hc := (validSpan?_eq_some_iff.1 hs).2
      have hd := (validSpan?_eq_some_iff.1 ht).2
      rw [hs, ht] at h
      obtain ⟨htrace, hspan⟩ := List.append_inj h
        (by rw [identifierText, identifierText, Text.length_hexFixed, Text.length_hexFixed])
      have hsame : c = d := by
        rw [SpanContext.mk.injEq]
        exact ⟨hexFixed_injective (trace_lt hc) (trace_lt hd) htrace,
          hexFixed_injective (span_lt hc) (span_lt hd) (List.append_cancel_left hspan)⟩
      rw [hsame]

/-- Lines of one level and one message are the same exactly when there is no valid span on either
side, or one and the same. -/
theorem lineText_eq_iff : lineText level message (validSpan? context?) =
    lineText level message (validSpan? context'?) ↔
      NoSpan context? ∧ NoSpan context'? ∨ context? = context'? := by
  rw [← validSpan?_eq_iff, ← spanText_eq_iff, lineText, lineText, List.append_cancel_left_eq,
    List.append_cancel_left_eq, List.append_cancel_right_eq]

/-- Behind the filter a record has no identifiers without a valid span, and else those of the span
in 32 and 16 digits, whatever it had before.  The usual lines of two such records with one level and
one message are the same exactly when there is no valid span on either side, or one and the same. -/
theorem noted_identifies_span (r : Record) (context? : Option SpanContext) :
    (NoSpan context? → (r.noted context?).fields.find? traceField = some .null ∧
      (r.noted context?).fields.find? spanField = some .null) ∧
    (∀ c, context? = some c → ¬ NoSpan context? → ∃ trace span,
      (r.noted context?).fields.find? traceField = some (.text trace) ∧
      (r.noted context?).fields.find? spanField = some (.text span) ∧
      HexSpelling 32 c.trace trace ∧ HexSpelling 16 c.span span) ∧
    ∀ (other : Record) (context'? : Option SpanContext) (level message : String),
      r.MessageOnly level message → other.MessageOnly level message → ∃ formatter line line',
        Formatter.ofGiven? none = .ok formatter ∧
        formatter.format (r.noted context?) = .ok line ∧
        formatter.format (other.noted context'?) = .ok line' ∧
        (line = line' ↔ NoSpan context? ∧ NoSpan context'? ∨ context? = context'?) := by
  refine ⟨fun hnone => ?_, fun c hc hsome => ?_, fun other context'? level message hr hother => ?_⟩
  · rw [find?_noted_trace, find?_noted_span, validSpan?_eq_none_iff.2 hnone]
    exact ⟨rfl, rfl⟩
  · rw [hc] at hsome
    have hvalid := isValid_iff.2 hsome
    rw [find?_noted_trace, find?_noted_span, validSpan?_eq_some_iff.2 ⟨hc, hvalid⟩]
    exact ⟨_, _, rfl, rfl, hexSpelling_hexFixed (trace_lt hvalid),
      hexSpelling_hexFixed (span_lt hvalid)⟩
  · refine ⟨_, _, _, ofGiven?_none, format_noted hr context?, format_noted hother context'?, ?_⟩
    rw [String.ofList_inj, lineText_eq_iff]

/-- Records with identifiers of other spans, in spans with the least and the greatest identifiers.
-/
theorem noted_identifies_span_stale :
    let stale := Record.ofText (.text "build") (.int Log.info) (.text "stale") (.int 7) "done"
    let least := some ⟨1, 1⟩
    let greatest := some ⟨Nat.pow 2 128 - 1, Nat.pow 2 64 - 1⟩
    (∃ trace span, (stale.noted greatest).fields.find? traceField = some (.text trace) ∧
      (stale.noted greatest).fields.find? spanField = some (.text span) ∧
      HexSpelling 32 (Nat.pow 2 128 - 1) trace ∧ HexSpelling 16 (Nat.pow 2 64 - 1) span) ∧
    ∃ formatter line line', Formatter.ofGiven? none = .ok formatter ∧
      formatter.format (stale.noted greatest) = .ok line ∧
      formatter.format (stale.noted least) = .ok line' ∧ line ≠ line' := by
  intro stale least greatest
  have hmessage : stale.MessageOnly "INFO" "done" := Record.messageOnly_ofText rfl
  have hleast : ¬ NoSpan least := by simp [least, NoSpan]
  have hgreatest : ¬ NoSpan greatest := by simp [greatest, NoSpan]
  obtain ⟨-, hnoted, hlines⟩ := noted_identifies_span stale greatest
  obtain ⟨formatter, line, line', hformatter, hline, hline', hiff⟩ :=
    hlines stale least "INFO" "done" hmessage hmessage
  refine ⟨hnoted _ rfl hgreatest, formatter, line, line', hformatter, hline, hline', fun h => ?_⟩
  rcases hiff.1 h with ⟨hnone, -⟩ | hsame
  · exact hgreatest hnone
  · simp [greatest, least] at hsame

end PackageBuild.LogFormat
