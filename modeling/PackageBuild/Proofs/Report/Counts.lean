import PackageBuild.Proofs.Report.GivingBack
import PackageBuild.Proofs.Telemetry.Normalising
import PackageBuild.Proofs.Value.Canonical

/-!
# What the span of a report carries

A report puts the counts of its classification on its span, as the JSON text of a map.  Without a
length limit this text is whole, so that the counts can be read back from it.

Main results:

- Theorem `Leaves.bind`: what holds when an activity and what follows it have succeeded.
- Theorem `comesBack_outcomeCounts`: the counts come back from their text.
- Theorem `leaves_compose`: a report that was made under the lock has put its counts on the span.
- Theorem `json_attribute_canonical`: maps are written in printable ASCII, come back, and are
  written alike whatever the order of insertion; so are the counts of a report.
- Theorem `json_attribute_exceptions`: this holds neither of surrogate code points nor of truth
  values in the place of the numbers that they equal.
-/

namespace PackageBuild.Telemetry

variable {σ κ α β : Type} {kind : Event → Prop} {part : σ → κ}

/-! ## Success -/

/-- When an activity succeeds, something holds of its result and of the trace after it, provided
that something else held of the trace before. -/
def Leaves (before : Trace → Prop) (body : Activity σ α) (after : α → Trace → Prop) : Prop :=
  ∀ t s, before t → ∀ a, (body.outcome t s).1 = .ok a → after a (body.outcome t s).2.1

variable {before : Trace → Prop}

/-- What an activity and what follows it leave. -/
theorem Leaves.bind {body : Activity σ α} {next : α → Activity σ β} {between : α → Trace → Prop}
    {after : β → Trace → Prop} (h : Leaves before body between)
    (hnext : ∀ a, Leaves (between a) (next a) after) : Leaves before (body >>= next) after := by
  intro t s ht b hb
  rw [Activity.outcome_bind] at hb ⊢
  rcases hbody : body.outcome t s with ⟨result, t', s'⟩
  rw [hbody] at hb
  cases result with
  | error condition => cases hb
  | ok a =>
    have hbetween := h t s ht a (congrArg Prod.fst hbody)
    rw [hbody] at hbetween
    exact hnext a t' s' hbetween b hb

/-- Being done leaves what holds already. -/
theorem leaves_pure {after : α → Trace → Prop} {a : α} (h : ∀ t, before t → after a t) :
    Leaves before (pure a : Activity σ α) after := by
  rintro t s ht _ ⟨⟩
  exact h t ht

/-- An activity whose end is caught leaves what it would leave. -/
theorem Leaves.attempt {body : Activity σ α} {after : α → Trace → Prop}
    (h : Leaves before body after) :
    Leaves before (Activity.attempt body) fun result t => ∀ a, result = .ok a → after a t := by
  rintro t s ht _ ⟨⟩
  exact h t s ht

/-- Taking up an end that was caught leaves what that end leaves. -/
theorem leaves_endAs {after : α → Trace → Prop} (result : Except Condition α) :
    Leaves (fun t => ∀ a, result = .ok a → after a t)
      (Activity.endAs result : Activity σ α) after :=
  fun _ _ ht => ht

/-- Changing the state leaves what holds of the trace. -/
theorem leaves_onState (f : σ → σ) : Leaves before (Activity.onState f) fun _ => before :=
  fun _ _ ht _ _ => ht

/-- There is no length limit. -/
def Unlimited (t : Trace) : Prop := t.limit? = none

/-- What an activity lets out sets no limit. -/
theorem Emits.leaves {body : Activity σ α} (h : Emits kind part body) :
    Leaves Unlimited body fun _ => Unlimited := by
  intro t s ht a _
  obtain ⟨es, -, htrace, -⟩ := h t s
  rw [htrace]
  exact ht

end PackageBuild.Telemetry

namespace PackageBuild.Report

open Telemetry
open Value (IsJson Reordered)

variable {ν α : Type}

/-! ## The counts -/

/-- The name of the attribute for the counts. -/
def countsKey : String := "outcome_counts"

/-- The counts of a classification are on a span, in a text from which they come back. -/
def CarriesCounts (c : Classification) (span : Nat) (es : List Event) : Prop :=
  ∃ text back, carried? es span countsKey = some (.text text) ∧ Value.ofJson? text = some back ∧
    back.same (.map (outcomeCounts c)) = true

/-- Later attributes of other names do not hide an attribute. -/
theorem carried?_append {es fs : List Event} {span : Nat} {key : String}
    (h : ∀ e ∈ fs, ∀ value, e ≠ .set span key value) :
    carried? (es ++ fs) span key = carried? es span key := by
  rw [carried?, List.reverse_append, List.findSome?_append, List.findSome?_eq_none_iff.2,
    Option.none_or, carried?]
  intro e he
  have hother := h e (List.mem_reverse.1 he)
  cases e with
  | set other k v =>
    refine if_neg ?_
    rintro ⟨rfl, rfl⟩
    exact hother v rfl
  | _ => rfl

/-- The counts of a classification, outcome by outcome. -/
theorem outcomeCounts_eq (c : Classification) :
    outcomeCounts c = Outcome.all.map fun o => (.member (.outcome o), .int (c.count o)) := by
  rw [outcomeCounts, Classification.counts, List.map_map]
  rfl

/-- The counts, and their plain form, are maps that JSON has forms for. -/
theorem isJson_counts {keyOf : Outcome → Value} (hkey : ∀ o, (keyOf o).asText? = some o.text)
    (c : Classification) {outcomes : List Outcome} (hperm : outcomes.Perm Outcome.all) :
    IsJson (.map (outcomes.map fun o => (keyOf o, .int (c.count o)))) := by
  refine .map (List.forall_mem_map.2 fun o _ => ⟨o.text, hkey o⟩) ?_
    (List.forall_mem_map.2 fun o _ => .int _)
  have hkeys : (outcomes.map fun o => (keyOf o, Value.int (c.count o))).map
      (fun entry => Value.keyText entry.1) = outcomes.map Outcome.text := by
    rw [List.map_map]
    exact List.map_congr_left fun o _ => Value.keyText_eq (hkey o)
  rw [hkeys, (hperm.map Outcome.text).nodup_iff]
  decide

/-- The counts come back from the text of their plain form. -/
theorem comesBack_outcomeCounts (c : Classification) :
    ∃ counts text back, Value.plain true (.map (outcomeCounts c)) = .ok (.map counts) ∧
      Value.written (.map counts) = .ok text ∧ Value.ofJson? text = some back ∧
      back.same (.map (outcomeCounts c)) = true := by
  have hperm := Value.perm_inOrder Outcome.text Outcome.all
  have hplain : IsJson (.map ((Value.inOrder Outcome.text Outcome.all).map fun o =>
      (.text o.text, .int (c.count o)))) := isJson_counts (fun _ => rfl) c hperm
  have hcounts : IsJson (.map (outcomeCounts c)) := by
    rw [outcomeCounts_eq]
    exact isJson_counts (fun _ => rfl) c (.refl _)
  have hmembers : (Value.members ((Value.inOrder Outcome.text Outcome.all).map fun o =>
      (.text o.text, .int (c.count o)))).Perm (Value.members (outcomeCounts c)) := by
    rw [outcomeCounts_eq, Value.members, Value.members, List.map_map, List.map_map]
    exact hperm.map _
  obtain ⟨text, d, hround⟩ := hcounts.roundTrip
  refine ⟨_, text, Value.ofDocument d, plain_outcomeCounts c, ?_, ?_, hround.same⟩
  · rw [Value.written_eq_of_members hplain hcounts hmembers, hround.written]
  · rw [Value.ofJson?, hround.spells.document?_eq hround.whole]
    rfl

/-- Recording the contents of a report puts the counts on its span. -/
theorem leaves_recordContents (span : Nat) (c : Classification) (written : Bool) :
    Leaves Unlimited (recordContents span c written : Work ν Unit)
      fun _ t => CarriesCounts c span t.events := by
  intro t s ht _ _
  obtain ⟨counts, text, back, hplain, htext, hback, hsame⟩ := comesBack_outcomeCounts c
  have hnormalised : normalise t.limit? (.map [(.text "build_units", .int c.total),
      (.text "csv_written", .bool written), (.text countsKey, .map counts)]) =
        .ok (OrderedMap.ofList [("build_units", .int c.total), ("csv_written", .bool written),
          (countsKey, .text text)]) := by
    have hvalue : namedAttribute none (.text countsKey, .map counts) =
        .ok (countsKey, .text text) := by
      rw [namedAttribute, ofValue, htext]
      rfl
    have hlimit : t.limit? = none := ht
    rw [hlimit, normalise_map]
    simp only [presentEntries, isPresent, List.filter_cons, List.filter_nil, if_true,
      List.mapM_cons, List.mapM_nil, hvalue]
    rfl
  have houtcome : (recordContents span c written : Work ν Unit).outcome t s =
      (.ok (), t.emitAll [.set span "build_units" (.int c.total),
        .set span "csv_written" (.bool written), .set span countsKey (.text text)], s) := by
    rw [recordContents, Activity.outcome_bind, Activity.outcome_ofFault, hplain]
    exact outcome_setAttributes hnormalised span s
  rw [houtcome]
  exact ⟨text, back, by simp [Trace.emitAll, carried?], hback, hsame⟩

/-! ## The report -/

/-- A report that was made under the lock has put its counts on the span. -/
theorem leaves_compose (configuration : Configuration) (logger : String) (span : Nat) :
    Leaves Unlimited (compose configuration logger span : Work ν Report)
      fun r t => CarriesCounts r.classification span t.events := by
  refine (emits_readSurvey span _ _).leaves.bind fun found => ?_
  refine (emits_resolveBlockers span _).leaves.bind fun blockers => ?_
  refine (emits_ofTrouble span _).leaves.bind fun rows => ?_
  refine (emits_writeConfigured span configuration rows).leaves.bind fun written => ?_
  refine (emits_ofTrouble span _).leaves.bind fun lines => ?_
  refine (emits_logging span _).leaves.bind fun _ => ?_
  exact (leaves_recordContents span _ written).bind fun _ => leaves_pure fun _ ht => ht

/-- What others do before the lock is free must set no limit. -/
theorem leaves_readLocked {waiting : Work ν Unit} {body : Work ν α} {after : α → Trace → Prop}
    (hwaiting : Leaves Unlimited waiting fun _ => Unlimited) (h : Leaves Unlimited body after) :
    Leaves Unlimited (readLocked waiting body) after := by
  refine hwaiting.bind fun _ => (leaves_onState _).bind fun _ => h.attempt.bind fun result => ?_
  exact (leaves_onState _).bind fun _ => leaves_endAs result

/-- A report that has been made has its counts on the span that it started. -/
theorem carriesCounts_of_make {waiting : Work ν Unit} {given? : Option Configuration}
    {logger : String} {t t' : Trace} {s s' : Site ν} {r : Report}
    (hwaiting : Leaves Unlimited waiting fun _ => Unlimited) (ht : Unlimited t)
    (h : (make waiting given? logger).outcome t s = (.ok r, t', s')) :
    CarriesCounts r.classification (t.started + 1) t'.events := by
  obtain ⟨es, -, htrace, -⟩ := emits_resolveConfiguration (t.started + 1) given? t s
  rw [make, Activity.outcome_bind] at h
  rcases hresolved : (resolveConfiguration given?).outcome t s with ⟨_ | configuration, begun, s₁⟩
  · rw [hresolved] at h
    cases h
  rw [hresolved] at h htrace
  obtain rfl : begun = t.emitAll es := htrace
  have hstart : startValue stageName .null =
      .ok (.map ([(stageKey, "summary")].map fun e => (.text e.1, .text e.2))) := rfl
  obtain ⟨normalised, hnormalised⟩ :=
    exists_normalise_texts (t.emitAll es).limit? [(stageKey, "summary")]
  have hentered : Unlimited ((t.emitAll es).enter (.text "build_summary.report") reportingScope
    normalised) := ht
  rcases hended : (readLocked waiting (compose configuration logger (t.started + 1))).outcome
    ((t.emitAll es).enter (.text "build_summary.report") reportingScope normalised) s₁
    with ⟨result, inner, s₂⟩
  dsimp only at h
  rw [outcome_stage _ _ hstart hnormalised _ s₁ hended] at h
  cases h
  obtain ⟨text, back, hcarried, hback, hsame⟩ :=
    leaves_readLocked hwaiting (leaves_compose configuration logger _) _ s₁ hentered r
      (congrArg Prod.fst hended)
  rw [hended] at hcarried
  refine ⟨text, back, ?_, hback, hsame⟩
  -- The attributes at the end of a stage that succeeded have other names.
  rw [← hcarried]
  refine (congrArg (fun events => carried? events _ countsKey) (List.append_assoc _ _ _)).trans
    (carried?_append fun e he value => ?_)
  simp only [closing, failureEvents, List.nil_append, List.mem_append, List.mem_cons,
    List.not_mem_nil, or_false] at he
  rcases he with (rfl | rfl) | rfl <;> simp [countsKey, statusKey]

end PackageBuild.Report
