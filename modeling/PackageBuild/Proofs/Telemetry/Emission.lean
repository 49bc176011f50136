import PackageBuild.Proofs.Telemetry.Stage

/-!
# What activities let out

An activity that starts no span of its own lets out events of some kinds only, whether it succeeds
or stops, and it leaves the spans as they are.

Main results:

- Theorem `Emits.bind`: what an activity and what follows it let out.
- Theorems `emits_logAll`, `emits_setAttributes` and `emits_recordCondition`: what single steps let
  out.
-/

namespace PackageBuild.Telemetry

variable {σ κ α β : Type} {kind : Event → Prop} {part : σ → κ}

/-- However it ends, an activity lets out only events of a kind, starts and ends no span, and leaves
a part of the state as it is. -/
def Emits (kind : Event → Prop) (part : σ → κ) (body : Activity σ α) : Prop :=
  ∀ t s, ∃ es, (∀ e ∈ es, kind e) ∧ (body.outcome t s).2.1 = t.emitAll es ∧
    part (body.outcome t s).2.2 = part s

theorem Trace.emitAll_nil (t : Trace) : t.emitAll [] = t := by
  rw [emitAll, List.append_nil]

/-- Events are let out one list after another. -/
theorem Trace.emitAll_append (t : Trace) (es fs : List Event) :
    t.emitAll (es ++ fs) = (t.emitAll es).emitAll fs := by
  simp only [emitAll, List.append_assoc]

/-- What an activity and what follows it let out. -/
theorem Emits.bind {body : Activity σ α} {next : α → Activity σ β} (h : Emits kind part body)
    (hnext : ∀ a, Emits kind part (next a)) : Emits kind part (body >>= next) := by
  intro t s
  obtain ⟨es, hes, htrace, hpart⟩ := h t s
  rw [Activity.outcome_bind]
  rcases hbody : body.outcome t s with ⟨result, t', s'⟩
  rw [hbody] at htrace hpart
  cases result with
  | error condition => exact ⟨es, hes, htrace, hpart⟩
  | ok a =>
    obtain ⟨fs, hfs, htrace', hpart'⟩ := hnext a t' s'
    refine ⟨es ++ fs, List.forall_mem_append.2 ⟨hes, hfs⟩, ?_, hpart'.trans hpart⟩
    rw [Trace.emitAll_append, ← htrace]
    exact htrace'

/-- An activity that lets out nothing and leaves the state as it is. -/
theorem emits_of_silent {body : Activity σ α}
    (h : ∀ t s, ∃ result, body.outcome t s = (result, t, s)) : Emits kind part body := by
  intro t s
  obtain ⟨result, hbody⟩ := h t s
  rw [hbody]
  exact ⟨[], List.forall_mem_nil _, (Trace.emitAll_nil t).symm, rfl⟩

/-- Being done lets out nothing. -/
theorem emits_pure (a : α) : Emits kind part (pure a) := emits_of_silent fun _ _ => ⟨_, rfl⟩

/-- Stopping lets out nothing. -/
theorem emits_throw (condition : Condition) : Emits kind part (throw condition : Activity σ α) :=
  emits_of_silent fun _ _ => ⟨_, rfl⟩

/-- Reading the state lets out nothing. -/
theorem emits_state : Emits kind part (Activity.state : Activity σ σ) :=
  emits_of_silent fun _ _ => ⟨_, rfl⟩

/-- Reading the trace lets out nothing. -/
theorem emits_trace : Emits kind part (Activity.trace : Activity σ Trace) :=
  emits_of_silent fun _ _ => ⟨_, rfl⟩

/-- An attempt lets out nothing. -/
theorem emits_ofFault (result : Except Value.Fault α) :
    Emits kind part (Activity.ofFault result : Activity σ α) :=
  emits_of_silent fun t s => ⟨_, Activity.outcome_ofFault result t s⟩

/-- Changing another part of the state lets out nothing. -/
theorem emits_onState {f : σ → σ} (h : ∀ s, part (f s) = part s) :
    Emits kind part (Activity.onState f) := by
  intro t s
  exact ⟨[], List.forall_mem_nil _, (Trace.emitAll_nil t).symm, h s⟩

/-- Letting out events. -/
theorem emits_emitAll {es : List Event} (h : ∀ e ∈ es, kind e) :
    Emits kind part (Activity.onTrace (·.emitAll es) : Activity σ Unit) :=
  fun _ _ => ⟨es, h, rfl, rfl⟩

/-- Logging lets out log records only. -/
theorem emits_logAll (h : ∀ record, kind (.log record)) (records : List Log.Record) :
    Emits kind part (Activity.logAll records : Activity σ Unit) := by
  refine emits_emitAll fun e he => ?_
  obtain ⟨record, -, rfl⟩ := List.mem_map.1 he
  exact h record

/-- Setting attributes lets out events about that span only. -/
theorem emits_setAttributes {span? : Option Nat}
    (h : ∀ span, span? = some span → ∀ key value, kind (.set span key value)) (attributes : Value) :
    Emits kind part (setAttributes span? attributes : Activity σ Unit) := by
  refine emits_trace.bind fun t => (emits_ofFault _).bind fun normalised => ?_
  cases span? with
  | none => exact emits_pure ()
  | some span =>
    refine emits_emitAll fun e he => ?_
    obtain ⟨entry, -, rfl⟩ := List.mem_map.1 he
    exact h span rfl entry.1 entry.2

/-- Recording a condition lets out two events about that span only. -/
theorem emits_recordCondition {span? : Option Nat} {condition : Condition}
    (h : ∀ span, span? = some span →
      kind (.exception span condition) ∧ kind (.failed span condition.message)) :
    Emits kind part (recordCondition span? condition : Activity σ Unit) := by
  cases span? with
  | none => exact emits_pure ()
  | some span =>
    refine emits_emitAll fun e he => ?_
    simp only [List.mem_cons, List.not_mem_nil, or_false] at he
    rcases he with rfl | rfl
    · exact (h span rfl).1
    · exact (h span rfl).2

end PackageBuild.Telemetry
