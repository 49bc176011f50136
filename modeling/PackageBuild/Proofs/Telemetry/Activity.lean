import PackageBuild.Telemetry.Trace

/-!
# Running activities

How an activity ends, and the trace and the state after it, step by step.

Main results:

- Theorem `outcome_bind`: an activity and what follows it.
- Theorems `outcome_pure`, `outcome_throw`, `outcome_state` and `outcome_logAll`: single steps.
- Theorems `outcome_attempt` and `outcome_endAs`: an activity whose end is caught and passed on.
-/

namespace PackageBuild.Telemetry.Activity

variable {σ α β : Type}

/-- What follows an activity runs where the activity ended, unless the activity stopped. -/
theorem outcome_bind (body : Activity σ α) (next : α → Activity σ β) (t : Trace) (s : σ) :
    (body >>= next).outcome t s =
      match body.outcome t s with
      | (.ok a, t', s') => (next a).outcome t' s'
      | (.error condition, t', s') => (.error condition, t', s') := by
  unfold outcome ExceptT.run StateT.run
  simp only [bind, ExceptT.bind, ExceptT.mk, ExceptT.bindCont, StateT.bind]
  rcases body (t, s) with ⟨result, t', s'⟩
  cases result <;> rfl

/-- Mapping changes the result alone. -/
theorem outcome_map (f : α → β) (body : Activity σ α) (t : Trace) (s : σ) :
    (f <$> body).outcome t s = ((body.outcome t s).1.map f, (body.outcome t s).2) := by
  rw [← bind_pure_comp, outcome_bind]
  rcases body.outcome t s with ⟨result, t', s'⟩
  cases result <;> rfl

@[simp] theorem outcome_pure (a : α) (t : Trace) (s : σ) :
    (pure a : Activity σ α).outcome t s = (.ok a, t, s) := rfl

/-- Stopping ends with the condition and changes nothing. -/
@[simp] theorem outcome_throw (condition : Condition) (t : Trace) (s : σ) :
    (throw condition : Activity σ α).outcome t s = (.error condition, t, s) := rfl

@[simp] theorem outcome_state (t : Trace) (s : σ) :
    (state : Activity σ σ).outcome t s = (.ok s, t, s) := rfl

@[simp] theorem outcome_trace (t : Trace) (s : σ) :
    (trace : Activity σ Trace).outcome t s = (.ok t, t, s) := rfl

@[simp] theorem outcome_onState (f : σ → σ) (t : Trace) (s : σ) :
    (onState f : Activity σ Unit).outcome t s = (.ok (), t, f s) := rfl

@[simp] theorem outcome_onTrace (f : Trace → Trace) (t : Trace) (s : σ) :
    (onTrace f : Activity σ Unit).outcome t s = (.ok (), f t, s) := rfl

/-- An attempt ends with its result or its fault and changes nothing. -/
@[simp] theorem outcome_ofFault (result : Except Value.Fault α) (t : Trace) (s : σ) :
    (ofFault result : Activity σ α).outcome t s = (result.mapError .fault, t, s) := by
  cases result <;> rfl

/-- An activity whose end is caught goes on however it ends. -/
@[simp] theorem outcome_attempt (body : Activity σ α) (t : Trace) (s : σ) :
    (attempt body).outcome t s = (.ok (body.outcome t s).1, (body.outcome t s).2) := rfl

/-- An end that was caught is taken up again. -/
@[simp] theorem outcome_endAs (result : Except Condition α) (t : Trace) (s : σ) :
    (endAs result : Activity σ α).outcome t s = (result, t, s) := rfl

/-- Logging adds the records to the trace. -/
@[simp] theorem outcome_logAll (records : List Log.Record) (t : Trace) (s : σ) :
    (logAll records : Activity σ Unit).outcome t s = (.ok (), t.emitAll (records.map .log), s) :=
      rfl

end PackageBuild.Telemetry.Activity
