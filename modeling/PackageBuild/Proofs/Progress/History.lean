import PackageBuild.Progress.Basic
import PackageBuild.Proofs.Record.Shape

/-!
# Histories of updates

What is known after a run of updates, as a function of the run itself: the last caching of a node,
whether the node was marked as built, and the first failure of a build unit.  Flags belong to the
number of a node and failures to the source archive, so that the two are read from the run by
different keys.

Main results:

- Theorem `flagsOf_run`: the flags of a node after a run.
- Theorem `failures_run`: the failures after a run are those that its updates record, in order.
- Theorem `performAll_eq_run`: no update of a run is refused when its parts have their shapes.
-/

namespace PackageBuild.Progress

namespace Update

/-- What an update says of the delta of the node with a key, if it caches that node. -/
def cachedAs? (key : Value.Key) : Update → Option Value
  | result r => if r.error?.isNone && r.usedCache && r.node.key = key then some r.wasDelta else none
  | cache node delta => if node.key = key then some delta else none
  | _ => none

/-- Whether an update marks the node with a key as built. -/
def marksBuilt (key : Value.Key) : Update → Bool
  | result r => r.error?.isNone && !r.usedCache && r.node.key = key
  | build node => node.key = key
  | _ => false

/-- The parts of an update have their shapes. -/
def Typed : Update → Prop
  | result r => r.Typed
  | cache node delta => node.Typed ∧ Value.HasShape .bool delta
  | build node => node.Typed
  | fail failure => failure.Typed
  | conflict binary source => ∀ v ∈ binary ++ source, Value.HasShape .text v

/-- An update whose parts have their shapes is not refused. -/
theorem Typed.fault?_eq_none {u : Update} (h : u.Typed) : u.fault? = none := by
  cases u with
  | result r =>
    have hnode : r.node.Typed := (Result.typed_iff.1 h).1
    simp only [fault?, hnode.pathFault?_eq_none, hnode.idFault?_eq_none, ite_self]
  | cache node delta => exact h.1.idFault?_eq_none
  | build node => exact Node.Typed.idFault?_eq_none h
  | fail failure => exact (Failure.typed_iff.1 h).1.pathFault?_eq_none
  | conflict binary source => rfl

end Update

/-! ## What a run says -/

/-- What the last caching of a node in a run says of its delta. -/
def lastCaching? (key : Value.Key) (us : List Update) : Option Value :=
  (us.filterMap (Update.cachedAs? key)).getLast?

/-- Whether a run marks a node as built. -/
def everBuilt (key : Value.Key) (us : List Update) : Bool := us.any (Update.marksBuilt key)

/-- The first failure that a run records of any node of a build unit. -/
def firstFailure? (unit : Value.Key) (us : List Update) : Option Failure :=
  (us.filterMap Update.failure?).find? fun failure => failure.node.buildUnit = unit

@[simp] theorem lastCaching?_nil (key : Value.Key) : lastCaching? key [] = none := rfl

/-- A later caching hides an earlier one. -/
theorem lastCaching?_cons (key : Value.Key) (u : Update) (us : List Update) :
    lastCaching? key (u :: us) = (lastCaching? key us).or (u.cachedAs? key) := by
  unfold lastCaching?
  cases hu : u.cachedAs? key with
  | none => simp [hu]
  | some delta =>
    rw [List.filterMap_cons_some hu, List.getLast?_cons]
    cases (us.filterMap (Update.cachedAs? key)).getLast? <;> rfl

@[simp] theorem everBuilt_nil (key : Value.Key) : everBuilt key [] = false := rfl

theorem everBuilt_cons (key : Value.Key) (u : Update) (us : List Update) :
    everBuilt key (u :: us) = (u.marksBuilt key || everBuilt key us) := rfl

/-! ## The flags of a node -/

/-- One update: a caching sets all flags, a mark only that of available nodes, and all other updates
leave the flags of the node as they are. -/
theorem flagsOf_apply_eq (p : Progress) (u : Update) (key : Value.Key) :
    (p.apply u).flagsOf key =
      match u.cachedAs? key with
      | some delta => ⟨true, true, delta⟩
      | none =>
        if u.marksBuilt key then { p.flagsOf key with available := true } else p.flagsOf key := by
  rw [flagsOf_apply]
  cases u with
  | result r =>
    by_cases hkey : r.node.key = key
    · subst hkey
      cases herror : r.error? <;> cases hcache : r.usedCache <;>
        simp [Update.change?, Update.cachedAs?, Update.marksBuilt, herror, hcache]
    · have hne : key ≠ r.node.key := fun h => hkey h.symm
      cases herror : r.error? <;> cases hcache : r.usedCache <;>
        simp [Update.change?, Update.cachedAs?, Update.marksBuilt, herror, hcache, hkey, hne]
  | cache node delta =>
    by_cases hkey : node.key = key
    · simp [Update.change?, Update.cachedAs?, hkey]
    · have hne : key ≠ node.key := fun h => hkey h.symm
      simp [Update.change?, Update.cachedAs?, Update.marksBuilt, hkey, hne]
  | build node =>
    by_cases hkey : node.key = key
    · simp [Update.change?, Update.cachedAs?, Update.marksBuilt, hkey]
    · have hne : key ≠ node.key := fun h => hkey h.symm
      simp [Update.change?, Update.cachedAs?, Update.marksBuilt, hkey, hne]
  | fail failure => simp [Update.change?, Update.cachedAs?, Update.marksBuilt]
  | conflict binary source => simp [Update.change?, Update.cachedAs?, Update.marksBuilt]

/-- After a run the last caching of a node decides its flags; marks before and behind it add
nothing. -/
theorem flagsOf_run (p : Progress) (us : List Update) (key : Value.Key) :
    (p.run us).flagsOf key =
      match lastCaching? key us with
      | some delta => ⟨true, true, delta⟩
      | none =>
        if everBuilt key us then { p.flagsOf key with available := true } else p.flagsOf key := by
  induction us generalizing p with
  | nil => simp
  | cons u us ih =>
    rw [run_cons, ih, flagsOf_apply_eq, lastCaching?_cons, everBuilt_cons]
    cases hlast : lastCaching? key us with
    | some delta => rfl
    | none =>
      cases hcached : u.cachedAs? key with
      | some delta => simp
      | none => cases u.marksBuilt key <;> cases everBuilt key us <;> simp

/-! ## The failures -/

/-- A run adds the failures of its updates in their order. -/
theorem failures_run (p : Progress) (us : List Update) :
    (p.run us).failures = p.failures ++ us.filterMap Update.failure? := by
  induction us generalizing p with
  | nil => simp
  | cons u us ih =>
    rw [run_cons, ih, failures_apply, List.append_assoc, List.filterMap_cons]
    cases u.failure? <;> rfl

/-! ## Refused updates -/

/-- The progress after an update, or why the update is refused. -/
def perform (p : Progress) (u : Update) : Except Value.Fault Progress :=
  match u.fault? with
  | some fault => .error fault
  | none => .ok (p.apply u)

/-- The progress after updates, one after another, unless one of them is refused. -/
def performAll (p : Progress) (us : List Update) : Except Value.Fault Progress :=
  us.foldlM perform p

/-- Updates whose parts have their shapes all take place. -/
theorem performAll_eq_run {us : List Update} (hus : ∀ u ∈ us, u.Typed) (p : Progress) :
    p.performAll us = .ok (p.run us) := by
  induction us generalizing p with
  | nil => rfl
  | cons u us ih =>
    have hfault : u.fault? = none := (hus u List.mem_cons_self).fault?_eq_none
    have hfirst : p.perform u = .ok (p.apply u) := by
      rw [perform, hfault]
    calc
      p.performAll (u :: us) = (p.perform u).bind fun q => q.performAll us := rfl
      _ = (p.apply u).performAll us := by rw [hfirst]; rfl
      _ = .ok ((p.apply u).run us) := ih (fun v hv => hus v (List.mem_cons_of_mem _ hv)) _

end PackageBuild.Progress
