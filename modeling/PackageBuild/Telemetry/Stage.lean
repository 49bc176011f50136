import PackageBuild.Telemetry.Trace

/-!
# Stages

A stage is a piece of work inside a span. The span carries the name of the stage from its start, and
at its end the time that passed and whether the work was completed. A failure is recorded on the
span and passed on.

Main results:

- `statusOf_ok`: completed work has the status "ok".
-/

namespace PackageBuild.Telemetry

variable {σ α : Type}

/-- The scope of spans around reports. -/
def reportingScope : Value := .text "build_report.reporting"

/-- The attribute that names the stage. -/
def stageKey : String := "build_report.stage"

/-- The attribute for how a stage ended. -/
def statusKey : String := "status"

/-- How a stage ended: an interruption does not count as an error. -/
def statusOf (result : Except Condition α) : String :=
  match result with
  | .ok _ => "ok"
  | .error condition => if condition.isFailure then "error" else "ok"

@[simp] theorem statusOf_ok (a : α) : statusOf (.ok a) = "ok" := rfl

/-- Normalise attributes and put them on a span; without a span they go nowhere. -/
def setAttributes (span? : Option Nat) (attributes : Value) : Activity σ Unit := do
  let normalised ← Activity.ofFault (normalise (← Activity.trace).limit? attributes)
  match span? with
  | none => pure ()
  | some span =>
    Activity.onTrace (·.emitAll (normalised.entries.map fun (k, v) => .set span k v))

/-- Record a condition on a span and mark the span as failed; without a span it goes nowhere. -/
def recordCondition (span? : Option Nat) (condition : Condition) : Activity σ Unit :=
  match span? with
  | none => pure ()
  | some span =>
    Activity.onTrace (·.emitAll [.exception span condition, .failed span condition.message])

/-- The attributes that a span starts with: the stage first, then the given ones, which may
overwrite it. -/
def startValue (stage attributes : Value) : Except Value.Fault Value :=
  if attributes.isEmpty then .ok (.map [(.text stageKey, stage)])
  else match attributes with
    | .map entries => .ok (.map (Value.ofEntries ((.text stageKey, stage) :: entries)))
    | v => .error (.notMap v.typeName)

/-- Tell on a span how its stage ended. -/
def recordEnd (span : Nat) (result : Except Condition α) : Activity σ Unit := do
  match result with
  | .ok _ => pure ()
  | .error condition => if condition.isFailure then recordCondition (some span) condition
  Activity.emit (.elapsed span)
  setAttributes (some span) (.map [(.text statusKey, .text (statusOf result))])

/-- Run a piece of work inside a span. -/
def stage (name scope stage attributes : Value) (body : Nat → Activity σ α) : Activity σ α := do
  let before ← Activity.trace
  let value ← Activity.ofFault (startValue stage attributes)
  let normalised ← Activity.ofFault (normalise before.limit? value)
  Activity.onTrace (·.enter name scope normalised)
  let span := before.started + 1
  let result ← Activity.attempt (body span)
  recordEnd span result
  Activity.onTrace (·.leave span before.current?)
  Activity.endAs result

end PackageBuild.Telemetry
