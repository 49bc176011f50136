import PackageBuild.Proofs.Telemetry.Stage

/-!
# What activities log

The log of an activity that succeeds is put together from the logs of its parts.  Spans stay out of
it: a stage logs what its work logs.

Main results:

- Theorem `Logs.bind`: the log of an activity and what follows it.
- Theorem `logs_stage`: the log of a stage.
-/

namespace PackageBuild.Telemetry.Activity

variable {σ α β : Type}

/-- Whatever the trace is, an activity that begins in a state succeeds, leaves another state and
logs these records. -/
def Logs (body : Activity σ α) (s : σ) (a : α) (s' : σ) (records : List Log.Record) : Prop :=
  ∀ t, ∃ t', body.outcome t s = (.ok a, t', s') ∧ t'.logged = t.logged ++ records

/-- What follows an activity begins where the activity ends. -/
theorem Logs.bind {body : Activity σ α} {next : α → Activity σ β} {s between after : σ} {a : α}
    {b : β} {records more : List Log.Record} (h : Logs body s a between records)
    (hnext : Logs (next a) between b after more) :
    Logs (body >>= next) s b after (records ++ more) := by
  intro t
  obtain ⟨t₁, hbody, hrecords⟩ := h t
  obtain ⟨t₂, hend, hmore⟩ := hnext t₁
  refine ⟨t₂, ?_, by rw [hmore, hrecords, List.append_assoc]⟩
  rw [outcome_bind, hbody]
  exact hend

/-- What follows an activity that logs nothing. -/
theorem Logs.bind_silent {body : Activity σ α} {next : α → Activity σ β} {s between after : σ}
    {a : α} {b : β} {records : List Log.Record} (h : Logs body s a between [])
    (hnext : Logs (next a) between b after records) : Logs (body >>= next) s b after records :=
  h.bind hnext

/-- An activity before what logs nothing. -/
theorem Logs.bind_last {body : Activity σ α} {next : α → Activity σ β} {s between after : σ}
    {a : α} {b : β} {records : List Log.Record} (h : Logs body s a between records)
    (hnext : Logs (next a) between b after []) : Logs (body >>= next) s b after records := by
  rw [← List.append_nil records]
  exact h.bind hnext

/-- Being done logs nothing. -/
theorem logs_pure (a : α) (s : σ) : Logs (pure a) s a s [] := by
  intro t
  exact ⟨t, rfl, (List.append_nil _).symm⟩

/-- Reading the state logs nothing. -/
theorem logs_state (s : σ) : Logs state s s s [] := by
  intro t
  exact ⟨t, rfl, (List.append_nil _).symm⟩

/-- Changing the state logs nothing. -/
theorem logs_onState (f : σ → σ) (s : σ) : Logs (onState f) s () (f s) [] := by
  intro t
  exact ⟨t, rfl, (List.append_nil _).symm⟩

/-- Logging logs the records. -/
theorem logs_logAll (records : List Log.Record) (s : σ) : Logs (logAll records) s () s records := by
  intro t
  exact ⟨_, rfl, Trace.logged_emitAll_log t records⟩

/-- A stage that starts with texts logs what its work logs. -/
theorem logs_stage {name scope stageValue attributes : Value} {body : Nat → Activity σ α}
    {s s' : σ} {a : α} {records : List Log.Record} (entries : List (String × String))
    (hstart : startValue stageValue attributes =
      .ok (.map (entries.map fun e => (.text e.1, .text e.2))))
    (h : ∀ span, Logs (body span) s a s' records) :
    Logs (stage name scope stageValue attributes body) s a s' records := by
  intro t
  obtain ⟨normalised, hnormalised⟩ := exists_normalise_texts t.limit? entries
  obtain ⟨t₀, t', hstage, hbefore, hafter⟩ :=
    exists_outcome_stage name scope hstart hnormalised body s
  obtain ⟨t₁, hbody, hrecords⟩ := h (t.started + 1) t₀
  rw [hbody] at hstage hafter
  exact ⟨t', hstage, by rw [hafter, hrecords, hbefore]⟩

end PackageBuild.Telemetry.Activity
