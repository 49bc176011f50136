import Mathlib.Data.List.Induction
import PackageBuild.LogFormat.Handler
import PackageBuild.Proofs.Attempt

/-!
# Histories of loggers

A logger may be made to trace again and again, between handlers that others give it and records that
it prints.  The handlers of a logger are known from what was done with it: the first accepted
template made one that traces, the last one says how it prints, and the others stand where they were
given first.

Main results:

- Theorems `trace_untraced` and `trace_traced`: what an accepted template does to the handlers.
- Theorem `Follows.step`: what holds of a logger after a history holds after one event more.
- Theorem `follows_run`: a logger that began without handlers follows its history.
-/

namespace PackageBuild.LogFormat

namespace Handler

/-- A handler that was given to a logger. -/
def IsPlain (h : Handler) : Prop := ∃ n others, h = plain n others

/-- A handler that was made to trace. -/
def tracing (n : Nat) (formatter : Formatter) : Handler := ⟨.made n, [.span], some formatter⟩

variable {h : Handler}

/-- A plain handler does not trace. -/
theorem IsPlain.isTracing_eq_false (hplain : h.IsPlain) : h.isTracing = false := by
  obtain ⟨n, others, rfl⟩ := hplain
  simp [isTracing, plain]

/-- A plain handler prints nothing. -/
theorem IsPlain.printed_eq_nil (hplain : h.IsPlain) (context? : Option SpanContext) (r : Record) :
    h.printed context? r = [] := by
  obtain ⟨n, others, rfl⟩ := hplain
  rfl

@[simp] theorem isTracing_tracing (n : Nat) (formatter : Formatter) :
    (tracing n formatter).isTracing = true := rfl

@[simp] theorem identity_tracing (n : Nat) (formatter : Formatter) :
    (tracing n formatter).identity = .made n := rfl

@[simp] theorem formatter?_tracing (n : Nat) (formatter : Formatter) :
    (tracing n formatter).formatter? = some formatter := rfl

@[simp] theorem filtered_tracing (n : Nat) (formatter : Formatter) (context? : Option SpanContext)
    (r : Record) : (tracing n formatter).filtered context? r = r.noted context? := rfl

/-- A handler that traces prints the line of the record behind the filter. -/
theorem printed_tracing {formatter : Formatter} {context? : Option SpanContext} {r : Record}
    {line : String} (hline : formatter.format (r.noted context?) = .ok line) (n : Nat) :
    (tracing n formatter).printed context? r = [line ++ "\n"] := by
  simp only [printed, formatter?_tracing, filtered_tracing, hline]

end Handler

namespace Logger

open Handler (IsPlain tracing)

/-! ## Making a logger trace -/

section Trace

variable {l : Logger} {template dateFormat : Value} {formatter : Formatter}
  {before after : List Handler}

/-- Plain handlers in front are passed by. -/
theorem reformat?_append (hbefore : ∀ h ∈ before, IsPlain h) :
    reformat? formatter (before ++ after) =
      (reformat? formatter after).map fun (handlers, found) => (before ++ handlers, found) := by
  induction before with
  | nil => simp
  | cons h rest ih =>
    obtain ⟨hfirst, hrest⟩ := List.forall_mem_cons.1 hbefore
    rw [List.cons_append, reformat?, hfirst.isTracing_eq_false, ih hrest]
    cases reformat? formatter after <;> rfl

/-- Without a tracing handler one is made, behind all others. -/
theorem trace_untraced (hplain : ∀ h ∈ l.handlers, IsPlain h)
    (hformatter : Formatter.ofValue? traceTemplate template dateFormat = .ok formatter) :
    l.trace template dateFormat =
      .ok ({ l with handlers := l.handlers ++ [tracing l.handlers.length formatter] },
        tracing l.handlers.length formatter) := by
  have hnone : reformat? formatter l.handlers = none := by
    rw [← List.append_nil l.handlers, reformat?_append hplain]
    rfl
  rw [trace, hformatter]
  simp only [Except.map, hnone]
  rfl

/-- The tracing handler that is there changes its formatter, and nothing else happens. -/
theorem trace_traced {n : Nat} {old : Formatter} (hbefore : ∀ h ∈ before, IsPlain h)
    (hhandlers : l.handlers = before ++ tracing n old :: after)
    (hformatter : Formatter.ofValue? traceTemplate template dateFormat = .ok formatter) :
    l.trace template dateFormat =
      .ok ({ l with handlers := before ++ tracing n formatter :: after }, tracing n formatter) := by
  have hsome : reformat? formatter l.handlers =
      some (before ++ tracing n formatter :: after, tracing n formatter) := by
    rw [hhandlers, reformat?_append hbefore]
    rfl
  rw [trace, hformatter]
  simp only [Except.map, hsome]

end Trace

/-! ## Histories -/

/-- What is done with a logger. -/
inductive Event where
  /-- It is made to trace with a template and a date format. -/
  | trace (template dateFormat : Value)
  /-- It is given a handler of its own number, with filters of other kinds. -/
  | plain (n others : Nat)
  | log (level : Int) (r : Record) (context? : Option SpanContext)

/-- What comes back. -/
inductive Answer where
  | handler (identity : Handler.Identity)
  | refused (fault : Fault)
  | nothing
  /-- The lines that handlers print. -/
  | printed (lines : List (Handler.Identity × String))

/-- A logger after an event, with the answer. -/
def step (l : Logger) : Event → Logger × Answer
  | .trace template dateFormat =>
    match l.trace template dateFormat with
    | .ok (after, h) => (after, .handler h.identity)
    | .error fault => (l, .refused fault)
  | .plain n others => (l.add (.plain n others), .nothing)
  | .log level r context? => (l, .printed (l.emit level r context?))

/-- A logger after events, one after another, with their answers. -/
def run (l : Logger) (es : List Event) : Logger × List Answer :=
  es.foldl (fun (l, answers) e => ((l.step e).1, answers ++ [(l.step e).2])) (l, [])

/-- The formatter of an accepted template. -/
def Event.formatter? : Event → Option Formatter
  | .trace template dateFormat => (Formatter.ofValue? traceTemplate template dateFormat).toOption
  | _ => none

/-- The number of a handler that is given. -/
def Event.given? : Event → Option Nat
  | .plain n _ => some n
  | _ => none

/-- The handler that comes back. -/
def Answer.identity? : Answer → Option Handler.Identity
  | .handler identity => some identity
  | _ => none

/-- The formatter of the last accepted template. -/
def lastFormatter? (es : List Event) : Option Formatter := (es.filterMap Event.formatter?).getLast?

/-- The handler that came back first. -/
def firstHandler? (answers : List Answer) : Option Handler.Identity :=
  answers.findSome? Answer.identity?

/-- The numbers of the handlers that are given, each where it was given first. -/
def givenOnce (es : List Event) : List Nat := (es.filterMap Event.given?).eraseDups

/-- The handlers that do not trace. -/
def plainHandlers (l : Logger) : List Handler.Identity :=
  (l.handlers.filter fun h => !h.isTracing).map Handler.identity

/-- A logger after one more event, with its answer behind the others. -/
theorem run_append_one (l : Logger) (es : List Event) (e : Event) :
    l.run (es ++ [e]) =
      (((l.run es).1.step e).1, (l.run es).2 ++ [((l.run es).1.step e).2]) := by
  rw [run, List.foldl_append]
  rfl

/-- What holds of a logger after a history. -/
structure Follows (l : Logger) (es : List Event) (answers : List Answer) : Prop where
  /-- Before a template is accepted nothing traces. -/
  untraced : lastFormatter? es = none → firstHandler? answers = none ∧ ∀ h ∈ l.handlers, IsPlain h
  /-- Then the handler that came back first traces, as it was asked to last. -/
  traced : ∀ formatter, lastFormatter? es = some formatter →
    ∃ n before after, firstHandler? answers = some (.made n) ∧
      l.handlers = before ++ tracing n formatter :: after ∧ ∀ h ∈ before ++ after, IsPlain h
  /-- The other handlers stand as they were given. -/
  plain : l.plainHandlers = (givenOnce es).map .given

/-! ## One event more -/

variable {l : Logger} {es : List Event} {answers : List Answer} {e : Event}

/-- The last formatter after one more event is that of the event, if it has one. -/
theorem lastFormatter?_append_one (es : List Event) (e : Event) :
    lastFormatter? (es ++ [e]) = e.formatter?.or (lastFormatter? es) := by
  unfold lastFormatter?
  rw [List.filterMap_append, List.getLast?_append, List.filterMap_cons]
  cases e.formatter? <;> rfl

/-- The first handler that came back stays the first. -/
theorem firstHandler?_append_one (answers : List Answer) (answer : Answer) :
    firstHandler? (answers ++ [answer]) = (firstHandler? answers).or answer.identity? := by
  unfold firstHandler?
  rw [List.findSome?_append, List.findSome?_cons]
  cases answer.identity? <;> rfl

/-- A handler that was given before is not given anew. -/
theorem givenOnce_append_one (es : List Event) (e : Event) :
    givenOnce (es ++ [e]) = givenOnce es ++
      match e.given? with
      | none => []
      | some n => if n ∈ es.filterMap Event.given? then [] else [n] := by
  unfold givenOnce
  rw [List.filterMap_append, List.eraseDups_append, List.filterMap_cons]
  cases e.given? with
  | none => simp
  | some n =>
    generalize es.filterMap Event.given? = numbers
    by_cases hn : n ∈ numbers <;> simp [hn, List.removeAll, List.eraseDups_cons]

/-- An event that neither makes nor gives a handler leaves everything as it is. -/
theorem Follows.of_idle (h : Follows l es answers) {answer : Answer}
    (hformatter : e.formatter? = none)
    (hgiven : e.given? = none) (hanswer : answer.identity? = none) :
    Follows l (es ++ [e]) (answers ++ [answer]) := by
  have hlast : lastFormatter? (es ++ [e]) = lastFormatter? es := by
    rw [lastFormatter?_append_one, hformatter, Option.none_or]
  have hfirst : firstHandler? (answers ++ [answer]) = firstHandler? answers := by
    rw [firstHandler?_append_one, hanswer, Option.or_none]
  refine ⟨?_, ?_, ?_⟩
  · rw [hlast, hfirst]
    exact h.untraced
  · rw [hlast, hfirst]
    exact h.traced
  · rw [givenOnce_append_one, hgiven, List.append_nil]
    exact h.plain

/-- When all handlers are plain, all of them count. -/
theorem plainHandlers_of_isPlain (h : ∀ h ∈ l.handlers, IsPlain h) :
    l.plainHandlers = l.handlers.map Handler.identity := by
  have hall : (l.handlers.filter fun h => !h.isTracing) = l.handlers :=
    List.filter_eq_self.2 fun other hother => by rw [(h other hother).isTracing_eq_false]; rfl
  rw [plainHandlers, hall]

/-- All handlers but the one that traces count. -/
theorem plainHandlers_of_traced {before after : List Handler} {n : Nat} {formatter : Formatter}
    (hhandlers : l.handlers = before ++ tracing n formatter :: after)
    (h : ∀ h ∈ before ++ after, IsPlain h) :
    l.plainHandlers = (before ++ after).map Handler.identity := by
  have hall : ((before ++ after).filter fun h => !h.isTracing) = before ++ after :=
    List.filter_eq_self.2 fun other hother => by rw [(h other hother).isTracing_eq_false]; rfl
  rw [← hall, plainHandlers, hhandlers, List.filter_append, List.filter_append,
    List.filter_cons_of_neg (by simp)]

/-- A number is known when its handler was given before. -/
theorem Follows.mem_identities_iff (h : Follows l es answers) {n : Nat} :
    .given n ∈ l.handlers.map Handler.identity ↔ n ∈ givenOnce es := by
  have hplain : .given n ∈ l.plainHandlers ↔ n ∈ givenOnce es := by
    rw [h.plain, List.mem_map]
    simp
  rw [← hplain]
  cases hlast : lastFormatter? es with
  | none => rw [plainHandlers_of_isPlain (h.untraced hlast).2]
  | some formatter =>
    obtain ⟨n, before, after, -, hhandlers, hothers⟩ := h.traced formatter hlast
    rw [plainHandlers_of_traced hhandlers hothers, hhandlers]
    simp

/-- A handler that the logger has is not given twice. -/
theorem Follows.add_known (h : Follows l es answers) {n : Nat} (others : Nat)
    (hn : n ∈ givenOnce es) : l.add (.plain n others) = l := by
  have hany : (l.handlers.any fun other => other.identity = .given n) = true := by
    obtain ⟨other, hother, hidentity⟩ := List.mem_map.1 (h.mem_identities_iff.2 hn)
    exact List.any_eq_true.2 ⟨other, hother, by rw [hidentity, decide_eq_true_eq]⟩
  exact if_pos hany

/-- A handler that was not given before is put behind the others. -/
theorem Follows.add_new (h : Follows l es answers) {n : Nat} (others : Nat)
    (hn : n ∉ givenOnce es) :
    l.add (.plain n others) = { l with handlers := l.handlers ++ [.plain n others] } := by
  have hany : ¬ (l.handlers.any fun other => other.identity = .given n) = true := by
    rw [List.any_eq_true]
    rintro ⟨other, hother, hidentity⟩
    rw [decide_eq_true_eq] at hidentity
    exact hn (h.mem_identities_iff.1 (List.mem_map.2 ⟨other, hother, hidentity⟩))
  exact if_neg hany

/-- A handler that is given stands behind all others. -/
theorem Follows.of_plain (h : Follows l es answers) (n others : Nat) :
    Follows (l.add (.plain n others)) (es ++ [.plain n others]) (answers ++ [.nothing]) := by
  have hlast : lastFormatter? (es ++ [.plain n others]) = lastFormatter? es :=
    lastFormatter?_append_one es _
  have hfirst : firstHandler? (answers ++ [.nothing]) = firstHandler? answers := by
    rw [firstHandler?_append_one]
    exact Option.or_none
  have hknown : n ∈ es.filterMap Event.given? ↔ n ∈ givenOnce es := List.mem_eraseDups.symm
  have honce : givenOnce (es ++ [.plain n others]) =
      givenOnce es ++ if n ∈ es.filterMap Event.given? then [] else [n] :=
    givenOnce_append_one es _
  by_cases hn : n ∈ givenOnce es
  · rw [if_pos (hknown.2 hn), List.append_nil] at honce
    rw [h.add_known others hn]
    exact ⟨by rw [hlast, hfirst]; exact h.untraced, by rw [hlast, hfirst]; exact h.traced,
      by rw [honce]; exact h.plain⟩
  · rw [if_neg (mt hknown.1 hn)] at honce
    rw [h.add_new others hn]
    have hnew : ∀ other ∈ [Handler.plain n others], IsPlain other :=
      List.forall_mem_singleton.2 ⟨n, others, rfl⟩
    refine ⟨?_, ?_, ?_⟩
    · rw [hlast, hfirst]
      intro hnone
      obtain ⟨hfirst, hplain⟩ := h.untraced hnone
      exact ⟨hfirst, List.forall_mem_append.2 ⟨hplain, hnew⟩⟩
    · rw [hlast, hfirst]
      intro formatter hsome
      obtain ⟨m, before, after, hfirst, hhandlers, hothers⟩ := h.traced formatter hsome
      refine ⟨m, before, after ++ [.plain n others], hfirst, ?_, ?_⟩
      · dsimp only
        rw [hhandlers, List.append_assoc, List.cons_append]
      · rw [← List.append_assoc]
        exact List.forall_mem_append.2 ⟨hothers, hnew⟩
    · have hfiltered : ([Handler.plain n others].filter fun h => !h.isTracing) =
          [.plain n others] :=
        List.filter_eq_self.2 fun other hother => by
          rw [(hnew other hother).isTracing_eq_false]
          rfl
      rw [honce, List.map_append, ← h.plain, plainHandlers, List.filter_append, List.map_append,
        hfiltered]
      rfl

/-- An accepted template leaves the other handlers as they are and one that traces among them. -/
theorem Follows.of_trace (h : Follows l es answers) {template dateFormat : Value}
    {formatter : Formatter} {n : Nat} {before after : List Handler}
    (hformatter : Formatter.ofValue? traceTemplate template dateFormat = .ok formatter)
    (hfirst : firstHandler? (answers ++ [.handler (.made n)]) = some (.made n))
    (hsame : l.plainHandlers = (before ++ after).map Handler.identity)
    (hothers : ∀ h ∈ before ++ after, IsPlain h) :
    Follows { l with handlers := before ++ tracing n formatter :: after }
      (es ++ [.trace template dateFormat]) (answers ++ [.handler (.made n)]) := by
  have hlast : lastFormatter? (es ++ [.trace template dateFormat]) = some formatter := by
    rw [lastFormatter?_append_one, Event.formatter?, hformatter]
    rfl
  have honce : givenOnce (es ++ [.trace template dateFormat]) = givenOnce es := by
    rw [givenOnce_append_one]
    exact List.append_nil _
  refine ⟨?_, ?_, ?_⟩
  · rw [hlast]
    intro hnone
    contradiction
  · rw [hlast]
    intro formatter' hsome
    cases hsome
    exact ⟨n, before, after, hfirst, rfl, hothers⟩
  · rw [honce, plainHandlers_of_traced rfl hothers, ← hsame, h.plain]

/-- The history is followed after every event. -/
theorem Follows.step (h : Follows l es answers) (e : Event) :
    Follows (l.step e).1 (es ++ [e]) (answers ++ [(l.step e).2]) := by
  cases e with
  | log level r context? => exact h.of_idle rfl rfl rfl
  | plain n others => exact h.of_plain n others
  | trace template dateFormat =>
    cases hformatter : Formatter.ofValue? traceTemplate template dateFormat with
    | error fault =>
      rw [Logger.step, trace_invalid hformatter]
      exact h.of_idle (by rw [Event.formatter?, hformatter]; rfl) rfl rfl
    | ok formatter =>
      cases hlast : lastFormatter? es with
      | none =>
        obtain ⟨hfirst, hplain⟩ := h.untraced hlast
        rw [Logger.step, trace_untraced hplain hformatter]
        refine h.of_trace hformatter ?_ ?_ ?_
        · rw [firstHandler?_append_one, hfirst]
          rfl
        · rw [List.append_nil, plainHandlers_of_isPlain hplain]
        · rwa [List.append_nil]
      | some old =>
        obtain ⟨n, before, after, hfirst, hhandlers, hothers⟩ := h.traced old hlast
        rw [Logger.step, trace_traced (List.forall_mem_append.1 hothers).1 hhandlers hformatter]
        refine h.of_trace hformatter ?_ (plainHandlers_of_traced hhandlers hothers) hothers
        rw [firstHandler?_append_one, hfirst, Option.some_or]

/-- A logger without handlers follows every history. -/
theorem follows_run (threshold : Int) (es : List Event) :
    Follows (run { threshold } es).1 es (run { threshold } es).2 := by
  induction es using List.reverseRecOn with
  | nil => exact ⟨fun _ => ⟨rfl, by simp [run]⟩, fun formatter h => by contradiction, rfl⟩
  | append_singleton es e ih =>
    rw [run_append_one]
    exact ih.step e

end Logger

end PackageBuild.LogFormat
