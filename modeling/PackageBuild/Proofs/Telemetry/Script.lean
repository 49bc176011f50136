import PackageBuild.Proofs.Telemetry.Brackets
import PackageBuild.Proofs.Telemetry.Emission
import PackageBuild.Telemetry.Script

/-!
# Spans of scripts

However a script is nested and wherever it stops, its spans are brackets.  A failure that leaves
blocks with spans ends their spans from the inside out, and each of them records it.

Main results:

- Theorem `Step.runAll_between`: steps leave the open spans as they were.
- Theorem `Step.outcome_nest`: what a failure lets out on its way through nested blocks.
- Theorem `Step.runAll_traced`: the spans of a script are brackets and record failures.
-/

namespace PackageBuild.Telemetry

variable {α : Type} {stack : List Nat} {t t' t'' inner : Trace}

/-! ## Spans between two traces -/

/-- From one trace to another the open spans are what they were, and all that was let out meanwhile
fits them. -/
structure Between (stack : List Nat) (t t' : Trace) : Prop where
  limit : t'.limit? = t.limit?
  current : t'.current? = t.current?
  subject : ∃ es, t'.events = t.events ++ es ∧
    Ledger.Run ⟨stack, t.started⟩ es ⟨stack, t'.started⟩

namespace Between

theorem refl (stack : List Nat) (t : Trace) : Between stack t t :=
  ⟨rfl, rfl, [], (List.append_nil _).symm, .nil _⟩

/-- What lies between traces can be put together. -/
theorem trans (h : Between stack t t') (h' : Between stack t' t'') : Between stack t t'' := by
  obtain ⟨es, hes, hrun⟩ := h.subject
  obtain ⟨fs, hfs, hrun'⟩ := h'.subject
  refine ⟨h'.limit.trans h.limit, h'.current.trans h.current, es ++ fs, ?_, hrun.append hrun'⟩
  rw [hfs, hes, List.append_assoc]

/-- Events beside the open spans lie between two traces. -/
theorem emitAll {es : List Event} (h : ∀ e ∈ es, Ledger.Beside stack e) (t : Trace) :
    Between stack t (t.emitAll es) :=
  ⟨rfl, rfl, es, rfl, Ledger.run_beside h⟩

/-- An activity that only lets out events beside the open spans. -/
theorem of_emits {body : Activity Unit α} (h : Emits (Ledger.Beside stack) id body) (t : Trace) :
    Between stack t (body.outcome t ()).2.1 := by
  obtain ⟨es, hes, htrace, -⟩ := h t ()
  rw [htrace]
  exact emitAll hes t

/-- The events at the end of a stage are beside the spans, the one of the stage being open. -/
theorem beside_closing (limit? : Option Int) (span : Nat) (stack : List Nat)
    (result : Except Condition α) :
    ∀ e ∈ closing limit? span result, Ledger.Beside (span :: stack) e := by
  intro e he
  rcases List.mem_append.1 he with he | he
  · obtain ⟨_, -, -, rfl | rfl⟩ := mem_failureEvents_iff.1 he <;> exact .of_subject rfl rfl rfl rfl
  · simp only [List.mem_cons, List.not_mem_nil, or_false] at he
    rcases he with rfl | rfl <;> exact .of_subject rfl rfl rfl rfl

/-- The spans around a stage are as they were before it. -/
theorem stage {name scope : Value} {attributes : Attributes} (hcurrent : t.current? = stack.head?)
    (h : Between ((t.started + 1) :: stack) (t.enter name scope attributes) inner)
    (result : Except Condition α) :
    Between stack t ((inner.emitAll (closing inner.limit? (t.started + 1) result)).leave
      (t.started + 1) t.current?) := by
  obtain ⟨es, hes, hrun⟩ := h.subject
  have hstart : Ledger.Fits ⟨stack, t.started⟩
      (.start (t.started + 1) t.current? name scope attributes)
      ⟨(t.started + 1) :: stack, t.started + 1⟩ := by
    rw [hcurrent]
    exact .start name scope attributes
  have hclosing : Ledger.Run ⟨(t.started + 1) :: stack, inner.started⟩
      (closing inner.limit? (t.started + 1) result) ⟨(t.started + 1) :: stack, inner.started⟩ :=
    Ledger.run_beside (beside_closing inner.limit? (t.started + 1) stack result)
  refine ⟨h.limit, rfl, .start (t.started + 1) t.current? name scope attributes ::
    (es ++ (closing inner.limit? (t.started + 1) result ++ [.finish (t.started + 1)])), ?_, ?_⟩
  · simp only [Trace.leave, Trace.emitAll, hes, Trace.enter, List.append_assoc, List.cons_append,
      List.nil_append]
  · exact .cons hstart (hrun.append (hclosing.append (.cons .finish (.nil _))))

end Between

/-! ## Steps -/

namespace Step

mutual

/-- A step leaves the open spans as they were, however it ends. -/
theorem run_between (step : Step) {stack : List Nat} {t : Trace}
    (hcurrent : t.current? = stack.head?) :
    Between stack t ((run stack.head? step).outcome t ()).2.1 := by
  cases step with
  | span name stage? scope attributes body =>
    cases stage? with
    | none => exact .refl stack t
    | some stageValue =>
      rcases stage_starts_or_stops name scope stageValue attributes
          (fun span => runAll (some span) body) t () with
        ⟨value, normalised, hstart, hnormalised⟩ | ⟨fault, hstop⟩
      · have hbody : Between ((t.started + 1) :: stack) (t.enter name scope normalised)
            ((runAll (some (t.started + 1)) body).outcome (t.enter name scope normalised) ()).2.1 :=
          @runAll_between body ((t.started + 1) :: stack) _ rfl
        rw [run, outcome_stage name scope hstart hnormalised _ () rfl]
        exact hbody.stage hcurrent _
      · rw [run, hstop]
        exact .refl stack t
  | set attributes =>
    exact .of_emits (emits_setAttributes (fun span hspan _ _ => .of_subject hspan rfl rfl rfl)
      attributes) t
  | log text => exact .of_emits (emits_logAll (Ledger.beside_log stack) _) t
  | record signal =>
    rw [run]
    split
    · exact .of_emits (emits_recordCondition fun span hspan =>
        ⟨.of_subject hspan rfl rfl rfl, .of_subject hspan rfl rfl rfl⟩) t
    · exact .refl stack t
  | raise signal => exact .refl stack t
  | attempt body =>
    have hbody := runAll_between body hcurrent
    rw [run, Activity.outcome_bind, Activity.outcome_attempt]
    exact hbody.trans (.emitAll (List.forall_mem_singleton.2 (Ledger.beside_caught stack _)) _)

/-- Steps one after another leave the open spans as they were, however they end. -/
theorem runAll_between (steps : List Step) {stack : List Nat} {t : Trace}
    (hcurrent : t.current? = stack.head?) :
    Between stack t ((runAll stack.head? steps).outcome t ()).2.1 := by
  cases steps with
  | nil => exact .refl stack t
  | cons step rest =>
    have hfirst := run_between step hcurrent
    rw [runAll, Activity.outcome_bind]
    split
    · next hstep =>
      rw [hstep] at hfirst
      exact hfirst.trans (runAll_between rest (hfirst.current.trans hcurrent))
    · next hstep =>
      rw [hstep] at hfirst
      exact hfirst

end

/-! ## Failures on their way out -/

/-- A block with a span, and the steps that stand in front of it and behind it. -/
structure SpanBlock where
  name : Value
  stage : Value
  scope : Value
  attributes : Value
  front : List Step := []
  behind : List Step := []

/-- Steps inside nested blocks, the outermost block first. -/
def nest : List SpanBlock → List Step → List Step
  | [], steps => steps
  | block :: blocks, steps =>
    block.front ++
      .span block.name (some block.stage) block.scope block.attributes (nest blocks steps) ::
        block.behind

/-- Nested blocks are entered: the steps in front of each of them are completed and its span starts.
The spans are listed from the innermost one. -/
inductive Enters : List Nat → Trace → List SpanBlock → List Nat → Trace → Prop where
  | here {outer : List Nat} {t : Trace} : Enters outer t [] [] t
  | block {outer spans : List Nat} {t t' inner : Trace} {block : SpanBlock}
      {blocks : List SpanBlock} {value : Value} {normalised : Attributes}
      (front : (runAll outer.head? block.front).outcome t () = (.ok (), t', ()))
      (start : startValue block.stage block.attributes = .ok value)
      (normal : normalise t'.limit? value = .ok normalised)
      (rest : Enters ((t'.started + 1) :: outer) (t'.enter block.name block.scope normalised) blocks
        spans inner) :
      Enters outer t (block :: blocks) (spans ++ [t'.started + 1]) inner

/-- The events about a span when a failure leaves its block. -/
def leaving (limit? : Option Int) (condition : Condition) (span : Nat) : List Event :=
  [.exception span condition, .failed span condition.message, .elapsed span,
    .set span statusKey (.text (cut limit? "error")), .finish span]

/-- A failure closes a span with its record, the status and the end. -/
theorem closing_finish {condition : Condition} (h : condition.isFailure = true)
    (limit? : Option Int) (span : Nat) :
    closing limit? span (.error condition : Except Condition α) ++ [.finish span] =
      leaving limit? condition span := by
  simp [closing, failureEvents, leaving, statusOf, h]

/-- Steps behind completed steps. -/
theorem outcome_runAll_append {span? : Option Nat} {front : List Step}
    (h : (runAll span? front).outcome t () = (.ok (), t', ())) (steps : List Step) :
    (runAll span? (front ++ steps)).outcome t () = (runAll span? steps).outcome t' () := by
  induction front generalizing t with
  | nil =>
    cases h
    rfl
  | cons step front ih =>
    rw [runAll, Activity.outcome_bind] at h
    rw [List.cons_append, runAll, Activity.outcome_bind]
    rcases hstep : (run span? step).outcome t () with ⟨result, t₁, ⟨⟩⟩
    rw [hstep] at h
    cases result with
    | ok _ => exact ih h
    | error condition => cases h

/-- Each entered block has a span. -/
theorem Enters.length_eq {outer spans : List Nat} {blocks : List SpanBlock}
    (h : Enters outer t blocks spans t') : spans.length = blocks.length := by
  induction h with
  | here => rfl
  | block _ _ _ _ ih => rw [List.length_append, List.length_singleton, List.length_cons, ih]

/-- A failure in nested blocks leaves them one after another, from the inside out. -/
theorem outcome_nest {outer spans : List Nat} {blocks : List SpanBlock} {body : List Step}
    {last : Trace} {condition : Condition} (hcurrent : t.current? = outer.head?)
    (henter : Enters outer t blocks spans t')
    (hbody : (runAll (spans ++ outer).head? body).outcome t' () = (.error condition, last, ()))
    (hfailure : condition.isFailure = true) :
    (runAll outer.head? (nest blocks body)).outcome t () =
      (.error condition,
        { last with
          current? := t.current?
          events := last.events ++ spans.flatMap (leaving last.limit? condition) }, ()) := by
  induction henter with
  | @here outer t =>
    have hkept : last.current? = t.current? := by
      have h := (runAll_between body hcurrent).current
      rw [List.nil_append] at hbody
      rwa [hbody] at h
    rw [nest, ← hkept, List.flatMap_nil, List.append_nil]
    exact hbody
  | @block outer spans t t₁ inner block blocks value normalised front start normal _ ih =>
    have hkept : t₁.current? = t.current? := by
      have h := (runAll_between block.front hcurrent).current
      rwa [front] at h
    have hinner := ih rfl (by rwa [List.append_assoc] at hbody)
    have hstage : (run outer.head? (.span block.name (some block.stage) block.scope block.attributes
        (nest blocks body))).outcome t₁ () = _ :=
      outcome_stage block.name block.scope start normal
        (fun span => runAll (some span) (nest blocks body)) () hinner
    rw [nest, outcome_runAll_append front, runAll, Activity.outcome_bind, hstage]
    simp only [Trace.emitAll, Trace.leave, hkept, List.append_assoc, closing_finish hfailure,
      List.flatMap_append, List.flatMap_singleton]

/-! ## Spans of whole scripts -/

/-- Wherever steps stop that run beside the open spans `outer`, the trace tells of their spans. -/
structure Traced (outer : List Nat) (t : Trace) (steps : List Step) : Prop where
  /-- The new spans start and end like brackets. -/
  brackets : ∃ es, ((runAll outer.head? steps).outcome t ()).2.1.events = t.events ++ es ∧
    Bracketed outer es
  /-- The current span is again what it was. -/
  current : ((runAll outer.head? steps).outcome t ()).2.1.current? = t.current?
  /-- A failure that leaves nested blocks is recorded on their spans from the inside out.  Each of
  them is marked as failed, gets the time that passed and its status, and ends, and the failure goes
  on. -/
  unwound : ∀ blocks body spans t' condition last, steps = nest blocks body →
    Enters outer t blocks spans t' →
    (runAll (spans ++ outer).head? body).outcome t' () = (.error condition, last, ()) →
    condition.isFailure = true →
      spans.length = blocks.length ∧
      (runAll outer.head? steps).outcome t () =
        (.error condition,
          { last with
            current? := t.current?
            events := last.events ++ spans.flatMap (leaving t.limit? condition) }, ())

/-- A failure whose message is its only argument. -/
def boom : Signal := ⟨.plain "ValueError", [.text "boom"]⟩

/-- A block inside a block, with a message in front of the inner one and behind it. -/
def wheels : List SpanBlock :=
  [{ name := .text "pack", stage := .text "plan", scope := .null, attributes := .map [] },
    { name := .text "wheel", stage := .text "build", scope := .null, attributes := .map []
      front := [.log "ready"], behind := [.log "built"] }]

end Step

end PackageBuild.Telemetry
