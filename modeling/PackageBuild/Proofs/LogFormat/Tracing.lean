import PackageBuild.Proofs.LogFormat.History

/-!
# Loggers that trace once

However often a logger is made to trace, it has one handler that does.  The first accepted template
makes it; every later one gives it back, and a refused one changes nothing.  So a record is printed
as a line once, the way that was asked for last.

Main results:

- Theorem `emit_traced`: a record is printed once, by the tracing handler.
- Theorem `trace_once`: whatever was done with a logger, it has one tracing handler at most, and the
  next event is answered as the history says.
-/

namespace PackageBuild.LogFormat.Logger

open Handler (IsPlain tracing)

variable {l : Logger} {es : List Event} {answers : List Answer}

/-! ## Thresholds -/

/-- Tracing keeps the threshold of a logger. -/
theorem threshold_trace {template dateFormat : Value} {after : Logger} {h : Handler}
    (htrace : l.trace template dateFormat = .ok (after, h)) : after.threshold = l.threshold := by
  obtain ⟨formatter, -, hafter⟩ := Attempt.map_eq_ok_iff.1 htrace
  split at hafter <;> cases hafter <;> rfl

/-- No event changes the threshold of a logger. -/
theorem threshold_step (l : Logger) (e : Event) : (l.step e).1.threshold = l.threshold := by
  cases e with
  | log level r context? => rfl
  | plain n others =>
    change (l.add (.plain n others)).threshold = l.threshold
    unfold add
    split <;> rfl
  | trace template dateFormat =>
    cases htrace : l.trace template dateFormat with
    | error fault => rw [step, htrace]
    | ok result =>
      rw [step, htrace]
      exact threshold_trace htrace

/-- A logger keeps its threshold. -/
theorem threshold_run (threshold : Int) (es : List Event) :
    (run { threshold } es).1.threshold = threshold := by
  induction es using List.reverseRecOn with
  | nil => rfl
  | append_singleton es e ih => rw [run_append_one, threshold_step, ih]

/-! ## The tracing handler -/

/-- One handler at most traces, and it notes the span once. -/
theorem Follows.filter_isTracing (h : Follows l es answers) :
    (l.handlers.filter Handler.isTracing).length ≤ 1 ∧
      ∀ h ∈ l.handlers, h.isTracing = true → h.passes = [.span] := by
  have hplain {handlers : List Handler} (hall : ∀ h ∈ handlers, IsPlain h) :
      handlers.filter Handler.isTracing = [] :=
    List.filter_eq_nil_iff.2 fun other hother => by simp [(hall other hother).isTracing_eq_false]
  cases hlast : lastFormatter? es with
  | none =>
    obtain ⟨-, hall⟩ := h.untraced hlast
    refine ⟨by simp [hplain hall], fun other hother htracing => ?_⟩
    rw [(hall other hother).isTracing_eq_false] at htracing
    contradiction
  | some formatter =>
    obtain ⟨n, before, after, -, hhandlers, hothers⟩ := h.traced formatter hlast
    obtain ⟨hbefore, hafter⟩ := List.forall_mem_append.1 hothers
    rw [hhandlers]
    refine ⟨by simp [List.filter_cons, hplain hbefore, hplain hafter], ?_⟩
    refine fun other hother htracing => ?_
    rcases List.mem_append.1 hother with hother | hother
    · rw [(hbefore other hother).isTracing_eq_false] at htracing
      contradiction
    · rcases List.mem_cons.1 hother with rfl | hother
      · rfl
      · rw [(hafter other hother).isTracing_eq_false] at htracing
        contradiction

/-- A record is printed once, by the tracing handler. -/
theorem emit_traced {n : Nat} {formatter : Formatter} {before after : List Handler}
    (hhandlers : l.handlers = before ++ tracing n formatter :: after)
    (hothers : ∀ h ∈ before ++ after, IsPlain h) {level : Int} (hlevel : l.threshold ≤ level)
    {r : Record} {context? : Option SpanContext} {line : String}
    (hline : formatter.format (r.noted context?) = .ok line) :
    l.emit level r context? = [(.made n, line ++ "\n")] := by
  have hnothing {handlers : List Handler} (hall : ∀ h ∈ handlers, IsPlain h) :
      handlers.flatMap (fun h => (h.printed context? r).map (h.identity, ·)) = [] :=
    List.flatMap_eq_nil_iff.2 fun other hother => by
      rw [(hall other hother).printed_eq_nil, List.map_nil]
  obtain ⟨hbefore, hafter⟩ := List.forall_mem_append.1 hothers
  rw [emit, if_pos hlevel, hhandlers, List.flatMap_append, List.flatMap_cons, hnothing hbefore,
    hnothing hafter, Handler.printed_tracing hline]
  rfl

/-! ## Answers -/

/-- How an event is answered after a history. -/
structure Answered (es : List Event) (answers : List Answer) (l : Logger) (e : Event)
    (after : Logger) (answer : Answer) : Prop where
  /-- A template that makes no formatter is refused, and nothing changes. -/
  refused : ∀ template dateFormat fault, e = .trace template dateFormat →
    Formatter.ofValue? traceTemplate template dateFormat = .error fault →
    after = l ∧ answer = .refused fault
  /-- The first accepted template makes a handler behind all others. -/
  first : ∀ template dateFormat formatter, e = .trace template dateFormat →
    Formatter.ofValue? traceTemplate template dateFormat = .ok formatter →
    firstHandler? answers = none →
    ∃ h, h.identity ∉ l.handlers.map Handler.identity ∧ after.handlers = l.handlers ++ [h] ∧
      h.passes = [.span] ∧ answer = .handler h.identity
  /-- Every later one gives that handler back, and no handler comes or goes. -/
  later : ∀ template dateFormat formatter identity, e = .trace template dateFormat →
    Formatter.ofValue? traceTemplate template dateFormat = .ok formatter →
    firstHandler? answers = some identity →
    after.handlers.map Handler.identity = l.handlers.map Handler.identity ∧
      answer = .handler identity
  /-- Where no template is given the usual one counts. -/
  usual : ∀ template dateFormat, e = .trace template dateFormat → template.isEmpty = true →
    Formatter.ofValue? traceTemplate template dateFormat =
      .ok ⟨.ofChars traceTemplate.toList, false, dateFormat⟩
  /-- A record that is let out and can be formatted is printed once, by that handler, as the last
  accepted template says. -/
  printed : ∀ level r context? formatter line, e = .log level r context? → l.threshold ≤ level →
    lastFormatter? es = some formatter → formatter.format (r.noted context?) = .ok line →
    ∃ identity, firstHandler? answers = some identity ∧
      answer = .printed [(identity, line ++ "\n")]

/-- A logger that follows its history answers the next event as the history says. -/
theorem Follows.answered (h : Follows l es answers) (e : Event) :
    Answered es answers l e (l.step e).1 (l.step e).2 where
  refused := by
    rintro template dateFormat fault rfl hfault
    rw [Logger.step, trace_invalid hfault]
    exact ⟨rfl, rfl⟩
  first := by
    rintro template dateFormat formatter rfl hformatter hfirst
    cases hlast : lastFormatter? es with
    | none =>
      obtain ⟨-, hplain⟩ := h.untraced hlast
      rw [Logger.step, trace_untraced hplain hformatter]
      refine ⟨_, ?_, rfl, rfl, rfl⟩
      rw [List.mem_map]
      rintro ⟨other, hother, hidentity⟩
      obtain ⟨n, others, rfl⟩ := hplain other hother
      contradiction
    | some old =>
      obtain ⟨n, before, after, hsome, -⟩ := h.traced old hlast
      rw [hfirst] at hsome
      contradiction
  later := by
    rintro template dateFormat formatter identity rfl hformatter hfirst
    cases hlast : lastFormatter? es with
    | none =>
      rw [(h.untraced hlast).1] at hfirst
      contradiction
    | some old =>
      obtain ⟨n, before, after, hsome, hhandlers, hothers⟩ := h.traced old hlast
      rw [hfirst] at hsome
      cases hsome
      rw [Logger.step, trace_traced (List.forall_mem_append.1 hothers).1 hhandlers hformatter,
        hhandlers, List.map_append, List.map_append]
      exact ⟨rfl, rfl⟩
  usual := by
    rintro template dateFormat rfl hempty
    rw [Formatter.ofValue?, if_pos hempty]
    rfl
  printed := by
    rintro level r context? formatter line rfl hlevel hlast hline
    obtain ⟨n, before, after, hfirst, hhandlers, hothers⟩ := h.traced formatter hlast
    exact ⟨_, hfirst, congrArg Answer.printed (emit_traced hhandlers hothers hlevel hline)⟩

/-- A logger that is made to trace twice prints a record once, as it was asked to last. -/
example :
    (run {} [.trace .null .null, .plain 0 1, .trace (.text "%(message)s") .null]).1.emit Log.info
      (Record.of (.text "build") (.int Log.info) ⟨.text "done", []⟩ []) none =
        [(.made 0, "done\n")] := by
  rfl

end PackageBuild.LogFormat.Logger
