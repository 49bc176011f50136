import PackageBuild.Proofs.Attempt
import PackageBuild.Proofs.Telemetry.Activity
import PackageBuild.Telemetry.Stage

/-!
# Stages around activities

A stage records a piece of work on a span.  Apart from the trace, it ends as the work ends, provided
that the span could be started.

Main results:

- Theorem `exists_normalise`: maps of which every key has a plain text and every value an attribute
  are normalised.
- Theorem `outcome_stage`: a stage ends as its work does, and which events it lets out meanwhile.
- Theorem `exists_outcome_stage`: a stage ends in the same state as its work and logs the same.
-/

namespace PackageBuild.Telemetry

variable {σ α : Type}

/-! ## Attributes that can be set -/

/-- Entries can be put behind others when their keys have texts and their values have forms. -/
theorem exists_addEntries {limit? : Option Int} {entries : List (Value × Value)}
    (h : ∀ entry ∈ entries,
      (∃ k, entry.1.plainText = .ok k) ∧ ∃ a, ofValue limit? entry.2 = .ok a)
    (before : Attributes) : ∃ attributes, addEntries limit? before entries = .ok attributes := by
  induction entries generalizing before with
  | nil => exact ⟨before, rfl⟩
  | cons entry rest ih =>
    obtain ⟨⟨k, hk⟩, a, ha⟩ := h entry List.mem_cons_self
    have hrest := ih fun e he => h e (List.mem_cons_of_mem _ he)
    unfold addEntries
    by_cases hpresent : isPresent entry.2 = true
    · obtain ⟨attributes, hattributes⟩ := hrest (before.insert k a)
      refine ⟨attributes, ?_⟩
      rw [if_pos hpresent, hk, ha]
      exact hattributes
    · rw [if_neg hpresent]
      exact hrest before

/-- A map is normalised when all keys have texts and all values have forms. -/
theorem exists_normalise {limit? : Option Int} {entries : List (Value × Value)}
    (h : ∀ entry ∈ entries,
      (∃ k, entry.1.plainText = .ok k) ∧ ∃ a, ofValue limit? entry.2 = .ok a) :
    ∃ attributes, normalise limit? (.map entries) = .ok attributes := by
  unfold normalise
  split
  · exact ⟨.empty, rfl⟩
  · exact exists_addEntries h .empty

/-- Texts under texts are always normalised. -/
theorem exists_normalise_texts (limit? : Option Int) (entries : List (String × String)) :
    ∃ attributes,
      normalise limit? (.map (entries.map fun e => (.text e.1, .text e.2))) = .ok attributes := by
  refine exists_normalise fun entry hentry => ?_
  obtain ⟨e, -, rfl⟩ := List.mem_map.1 hentry
  exact ⟨⟨e.1, rfl⟩, _, rfl⟩

/-- Putting attributes on a span changes the trace only. -/
theorem outcome_setAttributes {t : Trace} {attributes : Value} {normalised : Attributes}
    (h : normalise t.limit? attributes = .ok normalised) (span : Nat) (s : σ) :
    (setAttributes (some span) attributes : Activity σ Unit).outcome t s =
      (.ok (), t.emitAll (normalised.entries.map fun (k, v) => .set span k v), s) := by
  simp only [setAttributes, Activity.outcome_bind, Activity.outcome_trace,
    Activity.outcome_ofFault, h, Attempt.mapError_ok, Activity.outcome_onTrace]

/-! ## The end of a stage -/

/-- What is recorded on a span when its work ended: a failure if there was one. -/
def failureEvents (span : Nat) (result : Except Condition α) : List Event :=
  match result with
  | .ok _ => []
  | .error condition =>
    if condition.isFailure then [.exception span condition, .failed span condition.message] else []

/-- The events about a span when its work ended: a failure, then the time, and how it ended. -/
def closing (limit? : Option Int) (span : Nat) (result : Except Condition α) : List Event :=
  failureEvents span result ++
    [.elapsed span, .set span statusKey (.text (cut limit? (statusOf result)))]

/-- A failure is recorded by two events. -/
theorem mem_failureEvents_iff {span : Nat} {result : Except Condition α} {e : Event} :
    e ∈ failureEvents span result ↔ ∃ condition, result = .error condition ∧
      condition.isFailure = true ∧
      (e = .exception span condition ∨ e = .failed span condition.message) := by
  cases result with
  | ok a => simp [failureEvents]
  | error condition => cases h : condition.isFailure <;> simp [failureEvents, h]

/-- Closing a span logs nothing. -/
@[simp] theorem filterMap_record?_closing (limit? : Option Int) (span : Nat)
    (result : Except Condition α) : (closing limit? span result).filterMap Trace.record? = [] := by
  refine List.filterMap_eq_nil_iff.2 fun e he => ?_
  rcases List.mem_append.1 he with he | he
  · obtain ⟨_, -, -, rfl | rfl⟩ := mem_failureEvents_iff.1 he <;> rfl
  · simp only [List.mem_cons, List.not_mem_nil, or_false] at he
    rcases he with rfl | rfl <;> rfl

/-- Recording how a stage ended never stops the activity. -/
theorem outcome_recordEnd (span : Nat) (result : Except Condition α) (t : Trace) (s : σ) :
    (recordEnd span result : Activity σ Unit).outcome t s =
      (.ok (), t.emitAll (closing t.limit? span result), s) := by
  -- A failure is recorded first; all that follows is the same for every end.
  have hrest (t : Trace) : (do
      Activity.emit (.elapsed span)
      setAttributes (some span) (.map [(.text statusKey, .text (statusOf result))]) :
        Activity σ Unit).outcome t s =
      (.ok (), t.emitAll [.elapsed span,
        .set span statusKey (.text (cut t.limit? (statusOf result)))], s) := by
    have hnormalised : normalise (t.emit (.elapsed span)).limit?
        (.map [(.text statusKey, .text (statusOf result))]) =
        .ok (OrderedMap.empty.insert statusKey (.text (cut t.limit? (statusOf result)))) := rfl
    rw [Activity.outcome_bind, Activity.emit, Activity.outcome_onTrace]
    refine (outcome_setAttributes hnormalised span s).trans ?_
    simp only [Trace.emit, Trace.emitAll, List.append_assoc]
    rfl
  cases result with
  | ok a => exact hrest t
  | error condition =>
    by_cases hfailure : condition.isFailure = true
    · simp only [recordEnd, hfailure, if_true, recordCondition, Activity.outcome_bind,
        Activity.outcome_onTrace]
      refine (hrest _).trans ?_
      simp [Trace.emitAll, closing, failureEvents, hfailure]
    · simp only [recordEnd, hfailure]
      refine (hrest t).trans ?_
      simp [closing, failureEvents, hfailure]

/-- A stage whose span can be started does its work inside the span, records how it ended, ends the
span and ends as the work did. -/
theorem outcome_stage (name scope : Value) {stageValue attributes value : Value} {t : Trace}
    {normalised : Attributes} (hstart : startValue stageValue attributes = .ok value)
    (hnormalised : normalise t.limit? value = .ok normalised) (body : Nat → Activity σ α) (s : σ)
    {result : Except Condition α} {inner : Trace} {s' : σ}
    (hbody : (body (t.started + 1)).outcome (t.enter name scope normalised) s =
      (result, inner, s')) :
    (stage name scope stageValue attributes body).outcome t s =
      (result, (inner.emitAll (closing inner.limit? (t.started + 1) result)).leave (t.started + 1)
        t.current?, s') := by
  simp only [stage, Activity.outcome_bind, Activity.outcome_trace, Activity.outcome_ofFault,
    hstart, hnormalised, Attempt.mapError_ok, Activity.outcome_onTrace, Activity.outcome_attempt,
    hbody, outcome_recordEnd, Activity.outcome_endAs]

/-- A stage starts its span, or it stops before without doing anything. -/
theorem stage_starts_or_stops (name scope stageValue attributes : Value) (body : Nat → Activity σ α)
    (t : Trace) (s : σ) :
    (∃ value normalised, startValue stageValue attributes = .ok value ∧
        normalise t.limit? value = .ok normalised) ∨
      ∃ fault, (stage name scope stageValue attributes body).outcome t s =
        (.error (.fault fault), t, s) := by
  cases hstart : startValue stageValue attributes with
  | error fault =>
    refine .inr ⟨fault, ?_⟩
    simp only [stage, Activity.outcome_bind, Activity.outcome_trace, Activity.outcome_ofFault,
      hstart, Attempt.mapError_error]
  | ok value =>
    cases hnormalised : normalise t.limit? value with
    | error fault =>
      refine .inr ⟨fault, ?_⟩
      simp only [stage, Activity.outcome_bind, Activity.outcome_trace, Activity.outcome_ofFault,
        hstart, hnormalised, Attempt.mapError_ok, Attempt.mapError_error]
    | ok normalised => exact .inl ⟨value, normalised, rfl, hnormalised⟩

/-- A stage whose span can be started ends as its work ends, in the state in which the work left
it, and logs what its work logs. -/
theorem exists_outcome_stage (name scope : Value) {stageValue attributes value : Value} {t : Trace}
    {normalised : Attributes} (hstart : startValue stageValue attributes = .ok value)
    (hnormalised : normalise t.limit? value = .ok normalised) (body : Nat → Activity σ α) (s : σ) :
    ∃ t₀ t', (stage name scope stageValue attributes body).outcome t s =
        (((body (t.started + 1)).outcome t₀ s).1, t', ((body (t.started + 1)).outcome t₀ s).2.2) ∧
      t₀.logged = t.logged ∧
      t'.logged = ((body (t.started + 1)).outcome t₀ s).2.1.logged := by
  refine ⟨t.enter name scope normalised, _, outcome_stage name scope hstart hnormalised body s rfl,
    Trace.logged_enter t name scope normalised, ?_⟩
  rw [Trace.logged_leave, Trace.logged_emitAll, filterMap_record?_closing, List.append_nil]
  rfl

end PackageBuild.Telemetry
