import PackageBuild.Log
import PackageBuild.Telemetry.Attribute
import PackageBuild.Telemetry.Condition

/-!
# Traces

What a run lets out: log records and the life of its spans, in order. Spans are numbered from one
as they start, and the innermost open span is the current one.

Main results:

- `logged_emitAll`: what is let out adds its records to those that were logged.
-/

namespace PackageBuild.Telemetry

/-- Something that a run lets out. -/
inductive Event where
  | log (record : Log.Record)
  | start (span : Nat) (parent? : Option Nat) (name scope : Value) (attributes : Attributes)
  | set (span : Nat) (key : String) (value : Attribute)
  /-- A span gets the time that passed since its start. -/
  | elapsed (span : Nat)
  | exception (span : Nat) (condition : Condition)
  | failed (span : Nat) (description : String)
  | finish (span : Nat)
  | caught (condition? : Option Condition)

/-- The state of a run as far as its telemetry goes. -/
structure Trace where
  limit? : Option Int := none
  started : Nat := 0
  current? : Option Nat := none
  events : List Event := []

namespace Trace

/-- The trace with one more event. -/
def emit (t : Trace) (event : Event) : Trace := { t with events := t.events ++ [event] }

/-- The trace with more events. -/
def emitAll (t : Trace) (events : List Event) : Trace := { t with events := t.events ++ events }

/-- The trace with a new span, which is the current one. -/
def enter (t : Trace) (name scope : Value) (attributes : Attributes) : Trace :=
  { t with
    started := t.started + 1
    current? := some (t.started + 1)
    events := t.events ++ [.start (t.started + 1) t.current? name scope attributes] }

/-- The trace after the end of a span, with another span as the current one. -/
def leave (t : Trace) (span : Nat) (outer? : Option Nat) : Trace :=
  { t with current? := outer?, events := t.events ++ [.finish span] }

/-! ## What is logged -/

/-- The record that an event logs, if it does. -/
def record? : Event → Option Log.Record
  | .log record => some record
  | _ => none

/-- The records that were logged, in order. -/
def logged (t : Trace) : List Log.Record := t.events.filterMap record?

/-- What is let out adds its records to those that were logged. -/
theorem logged_emitAll (t : Trace) (events : List Event) :
    (t.emitAll events).logged = t.logged ++ events.filterMap record? :=
  List.filterMap_append

@[simp] theorem logged_emitAll_log (t : Trace) (records : List Log.Record) :
    (t.emitAll (records.map .log)).logged = t.logged ++ records := by
  simp [logged_emitAll, List.filterMap_map, record?, Function.comp_def]

/-- Attributes of spans are not logged. -/
@[simp] theorem logged_emitAll_set (t : Trace) (span : Nat) (entries : List (String × Attribute)) :
    (t.emitAll (entries.map fun entry => .set span entry.1 entry.2)).logged = t.logged := by
  simp [logged_emitAll, List.filterMap_map, record?, Function.comp_def]

@[simp] theorem logged_enter (t : Trace) (name scope : Value) (attributes : Attributes) :
    (t.enter name scope attributes).logged = t.logged := by
  simp [logged, enter, record?]

@[simp] theorem logged_leave (t : Trace) (span : Nat) (outer? : Option Nat) :
    (t.leave span outer?).logged = t.logged := by
  simp [logged, leave, record?]

end Trace

/-- An activity over a state: it lets out events and may stop before its end. -/
abbrev Activity (σ α : Type) := ExceptT Condition (StateM (Trace × σ)) α

namespace Activity

variable {σ α : Type}

/-- Change the trace. -/
def onTrace (f : Trace → Trace) : Activity σ Unit := modify fun (t, s) => (f t, s)

/-- The trace as it is now. -/
def trace : Activity σ Trace := do return (← get).1

/-- The state as it is now. -/
def state : Activity σ σ := do return (← get).2

/-- Change the state. -/
def onState (f : σ → σ) : Activity σ Unit := modify fun (t, s) => (t, f s)

/-- Let out an event. -/
def emit (event : Event) : Activity σ Unit := onTrace (·.emit event)

/-- Let out log records. -/
def logAll (records : List Log.Record) : Activity σ Unit :=
  onTrace (·.emitAll (records.map .log))

/-- Stop with a fault, or go on. -/
def ofFault (result : Except Value.Fault α) : Activity σ α :=
  match result with
  | .ok a => pure a
  | .error f => throw (.fault f)

/-- Run an activity and go on however it ends. -/
def attempt (body : Activity σ α) : Activity σ (Except Condition α) :=
  ExceptT.mk do return .ok (← body.run)

/-- End as a finished activity did. -/
def endAs (result : Except Condition α) : Activity σ α :=
  ExceptT.mk (pure result)

/-- The outcome of an activity, the trace and the state after it. -/
def outcome (body : Activity σ α) (t : Trace) (s : σ) : Except Condition α × Trace × σ :=
  body.run.run (t, s)

end Activity

end PackageBuild.Telemetry
