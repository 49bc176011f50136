import PackageBuild.Proofs.Report.Delivery
import PackageBuild.Proofs.Telemetry.Brackets
import PackageBuild.Proofs.Telemetry.Emission

/-!
# What a report gives back

A report takes the read side of the lock and starts a span, and it may stop at many places in
between. However it ends, the lock is as it was before, the span has ended, and the span carries how
the report ended.

Main results:

- Theorem `emits_compose`: what a report lets out under the lock.
- Theorem `gaveBack_stage`: work under the lock in a span of its own gives back both.
- Theorem `reports_give_back`: every report gives back the lock and its span.
-/

namespace PackageBuild.Report

open Telemetry

variable {ν α : Type} {s : Site ν} {t : Trace} {span : Nat} {es fs : List Event}

/-! ## The events of one span -/

/-- An event that logs something or puts an attribute on a span. -/
def Plain (span : Nat) : Event → Prop
  | .log _ => True
  | .set other _ _ => other = span
  | _ => False

/-- The attribute that a span carries under a key after events, the last one that was put there. -/
def carried? (es : List Event) (span : Nat) (key : String) : Option Attribute :=
  es.reverse.findSome? fun
    | .set other k v => if other = span ∧ k = key then some v else none
    | _ => none

/-- The events of one piece of work in one span: the span starts and ends, carries how the work
ended, and has a record of a failure exactly when the work stopped with this failure. -/
structure SpanOfWork (limit? : Option Int) (span : Nat) (result : Except Condition α)
    (es : List Event) : Prop where
  started : startedIn es = [span]
  finished : finishedIn es = [span]
  /-- A failure is recorded exactly when the work stopped with it. -/
  exception_iff : ∀ other condition, .exception other condition ∈ es ↔
    other = span ∧ result = .error condition ∧ condition.isFailure = true
  failed_iff : ∀ other text, .failed other text ∈ es ↔
    other = span ∧ ∃ condition, result = .error condition ∧ condition.isFailure = true ∧
      text = condition.message
  status : carried? es span statusKey = some (.text (cut limit? (statusOf result)))

/-- Plain events start no span. -/
theorem startedIn_of_plain (h : ∀ e ∈ es, Plain span e) : startedIn es = [] := by
  refine List.filterMap_eq_nil_iff.2 fun e he => ?_
  cases e with
  | start => exact (h _ he).elim
  | _ => rfl

/-- Plain events end no span. -/
theorem finishedIn_of_plain (h : ∀ e ∈ es, Plain span e) : finishedIn es = [] := by
  refine List.filterMap_eq_nil_iff.2 fun e he => ?_
  cases e with
  | finish => exact (h _ he).elim
  | _ => rfl

/-- Nothing that is recorded at the end of a stage starts or ends a span. -/
theorem failureEvents_within (span : Nat) (result : Except Condition α) :
    startedIn (failureEvents span result) = [] ∧ finishedIn (failureEvents span result) = [] := by
  constructor <;>
    refine List.filterMap_eq_nil_iff.2 fun e he => ?_ <;>
    obtain ⟨_, -, -, rfl | rfl⟩ := mem_failureEvents_iff.1 he <;> rfl

/-- The attribute that is set last is the one that the span carries. -/
theorem carried?_ending (es : List Event) (span : Nat) (key : String) (value : Attribute) :
    carried? (es ++ [.elapsed span, .set span key value, .finish span]) span key = some value := by
  simp [carried?]

/-- Plain events around the start of a span, and then how the work in it ended. -/
theorem spanOfWork_of_plain (hbefore : ∀ e ∈ es, Plain span e) (hinside : ∀ e ∈ fs, Plain span e)
    (limit? : Option Int) (result : Except Condition α) (parent? : Option Nat) (name scope : Value)
    (attributes : Attributes) :
    SpanOfWork limit? span result (es ++ .start span parent? name scope attributes ::
      (fs ++ (closing limit? span result ++ [.finish span]))) := by
  let start : Event := .start span parent? name scope attributes
  let status : Event := .set span statusKey (.text (cut limit? (statusOf result)))
  have heq : es ++ start :: (fs ++ (closing limit? span result ++ [.finish span])) =
      es ++ [start] ++ fs ++ failureEvents span result ++
        [.elapsed span, status, .finish span] := by
    simp [closing, status]
  have hmem (e : Event) (he : ¬ Plain span e) (hstart : e ≠ start)
      (hend : e ∉ [.elapsed span, status, .finish span]) :
      e ∈ es ++ [start] ++ fs ++ failureEvents span result ++
        [.elapsed span, status, .finish span] ↔ e ∈ failureEvents span result := by
    have h₁ : e ∉ es := fun h => he (hbefore e h)
    have h₂ : e ∉ fs := fun h => he (hinside e h)
    simp only [List.mem_append, List.mem_singleton, h₁, h₂, hstart, hend, false_or, or_false]
  obtain ⟨hnone, hnone'⟩ := failureEvents_within span result
  rw [heq]
  refine ⟨?_, ?_, ?_, ?_, carried?_ending _ span statusKey _⟩
  · simp only [startedIn_append, startedIn_of_plain hbefore, startedIn_of_plain hinside, hnone]
    rfl
  · simp only [finishedIn_append, finishedIn_of_plain hbefore, finishedIn_of_plain hinside, hnone']
    rfl
  · intro other condition
    rw [hmem _ (by simp [Plain]) (by simp [start]) (by simp [status]), mem_failureEvents_iff]
    constructor
    · rintro ⟨_, hresult, hfailure, h | h⟩
      · cases h
        exact ⟨rfl, hresult, hfailure⟩
      · contradiction
    · rintro ⟨rfl, hresult, hfailure⟩
      exact ⟨condition, hresult, hfailure, .inl rfl⟩
  · intro other text
    rw [hmem _ (by simp [Plain]) (by simp [start]) (by simp [status]), mem_failureEvents_iff]
    constructor
    · rintro ⟨condition, hresult, hfailure, h | h⟩
      · contradiction
      · cases h
        exact ⟨rfl, condition, hresult, hfailure, rfl⟩
    · rintro ⟨rfl, condition, hresult, hfailure, rfl⟩
      exact ⟨condition, hresult, hfailure, .inr rfl⟩

/-! ## Work under the lock -/

/-- What is left when an activity ended that read under the lock in a span of its own. -/
structure GaveBack (t : Trace) (s : Site ν) (ended : Except Condition α × Trace × Site ν) :
    Prop where
  /-- The lock is as it was. -/
  lock : ended.2.2.lock = s.lock
  /-- The current span is again what it was. -/
  current : ended.2.1.current? = t.current?
  /-- A new span has started and ended, and carries how the activity ended. -/
  span : ∃ es, ended.2.1.events = t.events ++ es ∧ SpanOfWork t.limit? (t.started + 1) ended.1 es

/-- Giving back what was granted leaves the lock as it was. -/
theorem giveBack_grant (l : Lock) : giveBack (l.grant .read) = l := rfl

/-- Work under the lock in a span of its own gives back both, whatever was let out before and
inside, and however it ends. -/
theorem gaveBack_stage {name scope stageValue attributes : Value} {body : Nat → Work ν α}
    (entries : List (String × String))
    (hstart : startValue stageValue attributes =
      .ok (.map (entries.map fun e => (.text e.1, .text e.2))))
    {begun : Trace} (hbegun : begun = t.emitAll es) (hbefore : ∀ e ∈ es, Plain (t.started + 1) e)
    (hbody : ∀ span, Emits (Plain span) Site.lock (body span)) :
    GaveBack t s ((stage name scope stageValue attributes fun span =>
      readLocked (pure ()) (body span)).outcome begun s) := by
  subst hbegun
  obtain ⟨normalised, hnormalised⟩ := exists_normalise_texts (t.emitAll es).limit? entries
  have hinside := hbody (t.started + 1) ((t.emitAll es).enter name scope normalised) s.held
  rcases hended : (body (t.started + 1)).outcome ((t.emitAll es).enter name scope normalised)
    s.held with ⟨result, inner, s'⟩
  rw [hended] at hinside
  obtain ⟨fs, hfs, rfl, hlock⟩ := hinside
  rw [outcome_stage name scope hstart hnormalised _ s (outcome_readLocked hended)]
  refine ⟨?_, rfl, _, ?_, spanOfWork_of_plain hbefore hfs t.limit? result t.current? name scope
    normalised⟩
  · exact (congrArg giveBack hlock).trans (giveBack_grant s.lock)
  · simp [Trace.leave, Trace.emitAll, Trace.enter]

/-! ## What reports let out under the lock -/

/-- Logging lets out log records only. -/
theorem emits_logging (span : Nat) (records : List Log.Record) :
    Emits (Plain span) Site.lock (Activity.logAll records : Work ν Unit) :=
  emits_logAll (fun _ => trivial) records

/-- Stopping for a trouble lets out nothing. -/
theorem emits_ofTrouble (span : Nat) (result : Except Classification.Trouble α) :
    Emits (Plain span) Site.lock (ofTrouble result : Work ν α) := by
  cases result with
  | ok a => exact emits_pure a
  | error trouble => exact emits_throw _

/-- A check of the graph lets out nothing. -/
theorem emits_check (span : Nat) (fault? : Graph → Option Value.Fault) :
    Emits (Plain span) Site.lock (check fault? : Work ν Unit) := by
  refine emits_state.bind fun site => ?_
  cases fault? site.graph with
  | none => exact emits_pure ()
  | some fault => exact emits_throw _

/-- Surveying lets out log records only. -/
theorem emits_readSurvey (span : Nat) (reading : Graph → Progress.Reading α) (survey : α → Survey) :
    Emits (Plain span) Site.lock (readSurvey reading survey : Work ν α) := by
  refine (emits_check span _).bind fun _ => ?_
  refine (emits_state.bind fun site => emits_pure _).bind fun result => ?_
  exact (emits_logging span _).bind fun _ => (emits_check span _).bind fun _ => emits_pure result

/-- Resolving blockers lets out log records only. -/
theorem emits_resolveBlockers (span : Nat) (c : Classification) :
    Emits (Plain span) Site.lock (resolveBlockers c : Work ν Blocking.Blockers) := by
  refine emits_state.bind fun site => ?_
  rcases Blocking.resolve site.graph c with ⟨records, result⟩
  refine (emits_logging span records).bind fun _ => ?_
  cases result with
  | ok blockers => exact emits_pure blockers
  | error e => exact emits_throw _

/-- Writing a table lets out log records only. -/
theorem emits_writeTable (span : Nat) (rows : List Summary.Row) (path : Path) :
    Emits (Plain span) Site.lock (writeTable rows path : Work ν Bool) := by
  refine emits_state.bind fun site => ?_
  cases Summary.Export.write site.files rows path with
  | error refusal => exact emits_throw _
  | ok written =>
    refine Emits.bind ?_ fun _ => (emits_logging span _).bind fun _ => emits_pure _
    exact emits_onState fun _ => rfl

/-- Writing the table that is configured lets out log records only. -/
theorem emits_writeConfigured (span : Nat) (configuration : Configuration)
    (rows : List Summary.Row) :
    Emits (Plain span) Site.lock (writeConfigured configuration rows : Work ν Bool) := by
  unfold writeConfigured
  cases configuration.tablePath? with
  | none => exact emits_pure false
  | some path => exact emits_writeTable span rows path

/-- Recording the contents of a report sets attributes of its span only. -/
theorem emits_recordContents (span : Nat) (c : Classification) (written : Bool) :
    Emits (Plain span) Site.lock (recordContents span c written : Work ν Unit) := by
  refine (emits_ofFault _).bind fun counts => emits_setAttributes ?_ _
  rintro _ ⟨⟩ key value
  exact rfl

/-- Under the lock a report lets out log records and attributes of its span only. -/
theorem emits_compose (configuration : Configuration) (logger : String) (span : Nat) :
    Emits (Plain span) Site.lock (compose configuration logger span : Work ν Report) := by
  refine (emits_readSurvey span _ _).bind fun found => ?_
  refine (emits_resolveBlockers span _).bind fun blockers => ?_
  refine (emits_ofTrouble span _).bind fun rows => ?_
  refine (emits_writeConfigured span configuration rows).bind fun written => ?_
  refine (emits_ofTrouble span _).bind fun lines => ?_
  refine (emits_logging span _).bind fun _ => ?_
  exact (emits_recordContents span _ written).bind fun _ => emits_pure _

/-- Reading the configuration lets out log records only. -/
theorem emits_resolveConfiguration (span : Nat) (given? : Option Configuration) :
    Emits (Plain span) Site.lock (resolveConfiguration given? : Work ν Configuration) := by
  cases given? with
  | some configuration => exact emits_pure configuration
  | none =>
    refine emits_state.bind fun site => ?_
    rcases Configuration.ofEnvironment site.environment with ⟨result, records⟩
    refine (emits_logging span records).bind fun _ => ?_
    cases result with
    | ok configuration => exact emits_pure configuration
    | error _ => exact emits_throw _

/-! ## The three reports -/

/-- However printing ends, it gives back the lock and its span. -/
theorem gaveBack_print (allowRebuilds : Bool) (logger : String) (t : Trace) (s : Site ν) :
    GaveBack t s ((print (pure ()) allowRebuilds logger).outcome t s) := by
  refine gaveBack_stage [(stageKey, "summary")] rfl (Trace.emitAll_nil t).symm
    (List.forall_mem_nil _) fun span => ?_
  refine (emits_readSurvey span _ _).bind fun found => ?_
  refine (emits_ofTrouble span _).bind fun lines => ?_
  exact (emits_logging span _).bind fun _ => emits_pure lines

/-- However writing the table ends, it gives back the lock and its span. -/
theorem gaveBack_record (destination : Summary.Destination) (t : Trace) (s : Site ν) :
    GaveBack t s ((record (pure ()) destination).outcome t s) := by
  refine gaveBack_stage [(stageKey, "summary"), ("path", destination.shown)] rfl
    (Trace.emitAll_nil t).symm (List.forall_mem_nil _) fun span => ?_
  refine (emits_readSurvey span Survey.read id).bind fun survey => ?_
  refine (emits_resolveBlockers span _).bind fun blockers => ?_
  refine (emits_ofTrouble span _).bind fun rows => ?_
  exact (emits_ofFault _).bind fun path => emits_writeTable span rows path

/-- A report that has its configuration gives back the lock and its span. -/
theorem gaveBack_make {given? : Option Configuration} {configuration : Configuration}
    (hconfiguration : configurationAt given? s = .ok configuration) (logger : String) (t : Trace) :
    GaveBack t s ((make (pure ()) given? logger).outcome t s) := by
  obtain ⟨begun, s, hresolved, rfl⟩ := ends_resolveConfiguration given? t
  obtain ⟨es, hes, htrace, -⟩ := emits_resolveConfiguration (t.started + 1) given? t s
  rw [hresolved] at htrace
  rw [make, Activity.outcome_bind, hresolved, hconfiguration]
  exact gaveBack_stage [(stageKey, "summary")] rfl htrace hes (emits_compose configuration logger)

/-- Every report at a site where nobody else uses the lock gives back the lock and its span, and the
span carries how the report ended; a report of everything must have its configuration. -/
theorem reports_give_back (s : Site ν) (t : Trace) (logger : String) :
    (∀ allowRebuilds, GaveBack t s ((print (pure ()) allowRebuilds logger).outcome t s)) ∧
    (∀ destination, GaveBack t s ((record (pure ()) destination).outcome t s)) ∧
    ∀ given? configuration, configurationAt given? s = .ok configuration →
      GaveBack t s ((make (pure ()) given? logger).outcome t s) :=
  ⟨fun allowRebuilds => gaveBack_print allowRebuilds logger t s,
    fun destination => gaveBack_record destination t s,
    fun _ _ hconfiguration => gaveBack_make hconfiguration logger t⟩

/-- A configuration that names a path with a null character for the table. -/
def nullConfiguration : Configuration := ⟨false, some (.ofText "a\x00b.csv")⟩

/-- A null character in the path stops a report of nothing. -/
theorem ends_make_nullConfiguration (logger : String) :
    Ends (make (pure ()) (some nullConfiguration) logger) (emptySite []) (.error .nullInPath)
      fun _ => True := by
  have hconfiguration : configurationAt (some nullConfiguration) (emptySite []) =
      .ok nullConfiguration := rfl
  refine ends_make_of_null (fun _ h => absurd h List.not_mem_nil)
    (fun _ h => absurd h List.not_mem_nil) hconfiguration rfl ?_ logger
  decide

/-- A report that a null character stops gives back the lock and its span. -/
theorem reports_give_back_null :
    GaveBack {} (emptySite [])
        ((make (pure ()) (some nullConfiguration) Summary.logger).outcome {} (emptySite [])) ∧
      ((make (pure ()) (some nullConfiguration) Summary.logger).outcome {} (emptySite [])).1 =
        .error .nullInPath := by
  obtain ⟨t', s', hends, -⟩ := ends_make_nullConfiguration Summary.logger {}
  exact ⟨(reports_give_back (emptySite []) {} Summary.logger).2.2 _ nullConfiguration rfl,
    congrArg Prod.fst hends⟩

/-- A length limit for attributes cuts the status of a report that a failure stops. -/
theorem make_status_cut :
    Condition.nullInPath.isFailure = true ∧
      ∃ last s', (make (pure ()) (some nullConfiguration) Summary.logger).outcome
          { limit? := some 3 } (emptySite []) = (.error .nullInPath, last, s') ∧
        carried? last.events 1 statusKey = some (.text "err") ∧
        carried? last.events 1 statusKey ≠ some (.text "error") := by
  obtain ⟨last, s', hends, -⟩ := ends_make_nullConfiguration Summary.logger { limit? := some 3 }
  have hcut : carried? ((make (pure ()) (some nullConfiguration) Summary.logger).outcome
      { limit? := some 3 } (emptySite [])).2.1.events 1 statusKey = some (.text "err") := by
    decide +kernel
  rw [hends] at hcut
  exact ⟨rfl, last, s', hends, hcut, hcut ▸ by decide⟩

end PackageBuild.Report
