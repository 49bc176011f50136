import PackageBuild.Log
import PackageBuild.OrderedMap
import PackageBuild.Package.Result
import PackageBuild.Value.Items
import PackageBuild.Value.Named

/-!
# Build progress

What the workers of a build have done so far: flags under the keys of nodes, the failures in the
order in which they were recorded, and the name conflicts with the toolchain. Progress changes by
updates only.

Main results:

- `attemptAll_eq_run`: a refused update is as good as none.
- `failures_apply`: which failure an update adds.
- `flagsOf_apply`: what an update does to the flags of a node.
-/

namespace PackageBuild

/-- What is known of a node. -/
structure Flags where
  /-- The node need not be built any more. -/
  available : Bool := false
  /-- An artifact from before satisfies the node. -/
  cached : Bool := false
  /-- Whether a repository has the package already; the value of the caching that said so. -/
  delta : Value := .bool false
  deriving Repr, Inhabited

/-- The progress of a build. -/
structure Progress where
  flags : OrderedMap Value.Key Flags := .empty
  failures : List Failure := []
  /-- The binary packages with the name of one of the toolchain. -/
  binaryConflicts : List Value := []
  /-- The source packages with the name of one of the toolchain. -/
  sourceConflicts : List Value := []

namespace Progress

instance : Inhabited Progress := ⟨{}⟩

/-- A change of the progress. -/
inductive Update where
  | result (result : Result)
  | cache (node : Node) (delta : Value)
  | build (node : Node)
  | fail (failure : Failure)
  /-- The scheduler found name conflicts with the toolchain. -/
  | conflict (binary source : List Value)

/-- The flags of a node; a node of which nothing is known has none set. -/
def flagsOf (p : Progress) (key : Value.Key) : Flags := (p.flags.find? key).getD {}

/-- Whether an artifact from before satisfies a node. -/
def isCached (p : Progress) (node : Node) : Bool := (p.flagsOf node.key).cached

/-- Whether a repository has the package of a node already. -/
def isDelta (p : Progress) (node : Node) : Bool := (p.flagsOf node.key).delta.isTrue

/-- Whether a node need not be built any more. -/
def isAvailable (p : Progress) (node : Node) : Bool := (p.flagsOf node.key).available

/-- The progress after an artifact from before was found for a node. -/
def cache (p : Progress) (node : Node) (delta : Value) : Progress :=
  { p with flags := p.flags.insert node.key ⟨true, true, delta⟩ }

/-- The progress after a node was built. -/
def build (p : Progress) (node : Node) : Progress :=
  { p with flags := p.flags.insert node.key { p.flagsOf node.key with available := true } }

/-- The progress after a failure. -/
def fail (p : Progress) (failure : Failure) : Progress :=
  { p with failures := p.failures ++ [failure] }

/-- The progress after a worker's report: an error is a failure, and else the node is satisfied. -/
def report (p : Progress) (r : Result) : Progress :=
  match r.failure? with
  | some failure => p.fail failure
  | none => if r.usedCache then p.cache r.node r.wasDelta else p.build r.node

/-- The progress after an update. -/
def apply (p : Progress) : Update → Progress
  | .result r => p.report r
  | .cache node delta => p.cache node delta
  | .build node => p.build node
  | .fail failure => p.fail failure
  | .conflict binary source => { p with binaryConflicts := binary, sourceConflicts := source }

/-- The progress after updates, one after another. -/
def run (p : Progress) (updates : List Update) : Progress := updates.foldl apply p

namespace Update

/-- The logger of updates. -/
def logger : String := "build_report.state"

/-- The failure that an update records. -/
def failure? : Update → Option Failure
  | result r => r.failure?
  | fail failure => some failure
  | _ => none

/-- The flags that an update sets: those of one node, as a function of those before. -/
def change? : Update → Option (Value.Key × (Flags → Flags))
  | result r =>
    if r.error?.isSome then none
    else if r.usedCache then some (r.node.key, fun _ => ⟨true, true, r.wasDelta⟩)
    else some (r.node.key, fun before => { before with available := true })
  | cache node delta => some (node.key, fun _ => ⟨true, true, delta⟩)
  | build node => some (node.key, fun before => { before with available := true })
  | fail _ | conflict .. => none

/-- What an update logs: a failure is logged with the file name of the source archive. -/
def records (u : Update) : List Log.Record :=
  match u.failure? with
  | some failure =>
    Log.record logger Log.debug ("Recording build failure for " ++ failure.node.fileName)
  | none => []

/-- Why an update is refused, if it is: a failure is logged with the file name of the source
archive, which there must be, and flags are kept under a key. -/
def fault? : Update → Option Value.Fault
  | result r => if r.error?.isSome then r.node.pathFault? else r.node.idFault?
  | fail failure => failure.node.pathFault?
  | cache node _ | build node => node.idFault?
  | conflict .. => none

/-- Whether an update is not refused. -/
def accepted (u : Update) : Bool := u.fault?.isNone

end Update

/-- The progress after an update that may be refused; a refused one changes nothing. -/
def attempt (p : Progress) (u : Update) : Progress :=
  if u.accepted then p.apply u else p

/-- The progress after updates that may be refused, one after another. -/
def attemptAll (p : Progress) (updates : List Update) : Progress := updates.foldl attempt p

/-- The progress after the scheduler gave the conflicts as two collections; when the second one is
none, the first one counts all the same. -/
def setConflicts (p : Progress) (binary source : Value) : Progress × Option Value.Fault :=
  match binary.items, source.items with
  | .error fault, _ => (p, some fault)
  | .ok binary, .error fault => (p.apply (.conflict binary p.sourceConflicts), some fault)
  | .ok binary, .ok source => (p.apply (.conflict binary source), none)

/-- The names under which the scheduler gives the conflicts. -/
def conflictNames : List String := ["rpms", "srpms"]

/-- Conflicts that are given by name, or why a name is refused. -/
def readConflicts (given : Named) : Except String (Value × Value) :=
  match given.refusal? conflictNames ["self"] with
  | some refusal => .error (refusal.message "GraphBuildState.set_toolchain_conflicts")
  | none => .ok (given.valueD "rpms" (.tuple []), given.valueD "srpms" (.tuple []))

/-! ## What an update does -/

@[simp] theorem run_nil (p : Progress) : p.run [] = p := rfl

@[simp] theorem run_cons (p : Progress) (u : Update) (us : List Update) :
    p.run (u :: us) = (p.apply u).run us := rfl

/-- Updates are applied one list after another. -/
theorem run_append (p : Progress) (us vs : List Update) :
    p.run (us ++ vs) = (p.run us).run vs := by
  simp [run, List.foldl_append]

/-- What is refused may as well be left out. -/
theorem attemptAll_eq_run (p : Progress) (us : List Update) :
    p.attemptAll us = p.run (us.filter Update.accepted) := by
  induction us generalizing p with
  | nil => rfl
  | cons u us ih =>
    rw [show p.attemptAll (u :: us) = (p.attempt u).attemptAll us from rfl, ih, attempt]
    cases h : u.accepted <;> simp [h]

/-- An update adds its failure behind the others. -/
theorem failures_apply (p : Progress) (u : Update) :
    (p.apply u).failures = p.failures ++ u.failure?.toList := by
  cases u with
  | result r =>
    cases h : r.failure? with
    | some failure => simp [apply, report, Update.failure?, h, fail]
    | none =>
      simp only [apply, report, Update.failure?, h]
      split <;> simp [cache, build]
  | cache node delta => simp [apply, cache, Update.failure?]
  | build node => simp [apply, build, Update.failure?]
  | fail failure => simp [apply, fail, Update.failure?]
  | conflict binary source => simp [apply, Update.failure?]

/-- Caching sets the flags of one node. -/
theorem flagsOf_cache (p : Progress) (node : Node) (delta : Value) (key : Value.Key) :
    (p.cache node delta).flagsOf key =
      if key = node.key then ⟨true, true, delta⟩ else p.flagsOf key := by
  simp only [flagsOf, cache, OrderedMap.find?_insert]
  split <;> rfl

/-- Building makes one node available. -/
theorem flagsOf_build (p : Progress) (node : Node) (key : Value.Key) :
    (p.build node).flagsOf key =
      if key = node.key then { p.flagsOf key with available := true } else p.flagsOf key := by
  simp only [flagsOf, build, OrderedMap.find?_insert]
  split
  · next h => subst h; rfl
  · rfl

/-- An update changes the flags of its node and of no other. -/
theorem flagsOf_apply (p : Progress) (u : Update) (key : Value.Key) :
    (p.apply u).flagsOf key =
      match u.change? with
      | some (changed, f) => if key = changed then f (p.flagsOf key) else p.flagsOf key
      | none => p.flagsOf key := by
  cases u with
  | result r =>
    cases h : r.error? with
    | some error => simp [apply, report, Result.failure?, h, Update.change?, fail, flagsOf]
    | none =>
      by_cases hc : r.usedCache = true
      · simp [apply, report, Result.failure?, h, Update.change?, hc, flagsOf_cache]
      · simp [apply, report, Result.failure?, h, Update.change?, hc, flagsOf_build]
  | cache node delta => simp [apply, Update.change?, flagsOf_cache]
  | build node => simp [apply, Update.change?, flagsOf_build]
  | fail failure => simp [apply, fail, Update.change?, flagsOf]
  | conflict binary source => simp [apply, Update.change?, flagsOf]

end Progress

end PackageBuild
