import Mathlib.Data.List.FinRange
import Mathlib.Data.List.Perm.Basic
import Mathlib.Data.List.Sort
import PackageBuild.Proofs.Progress.History

/-!
# Rearranged histories

Updates may come in another order than that in which they were made.  Two of them conflict when both
cache one node, both record a failure of one build unit, or both replace the toolchain conflicts;
what is read of the progress depends on the order of conflicting updates only.

Main results:

- Theorem `Rearranges.filterMap_eq`: what is gathered from updates of which any two conflict is
  gathered in the same order.
- Theorem `alike_attemptAll`: rearranged histories lead to progresses that are read alike.
- Theorem `Rearranges.of_perm`: without conflicts every order is a rearrangement.
-/

namespace PackageBuild.Progress

/-! ## The toolchain conflicts after a run -/

/-- The toolchain conflicts that an update sets. -/
def Update.toolchain? : Update → Option (List Value × List Value)
  | .conflict binary source => some (binary, source)
  | _ => none

/-- The toolchain conflicts, of binary and of source packages. -/
def toolchain (p : Progress) : List Value × List Value := (p.binaryConflicts, p.sourceConflicts)

/-- An update reports a toolchain or keeps the one that is known. -/
theorem toolchain_apply (p : Progress) (u : Update) :
    (p.apply u).toolchain = u.toolchain?.getD p.toolchain := by
  cases u with
  | result r =>
    rw [apply, report]
    cases r.failure? with
    | some failure => rfl
    | none => cases r.usedCache <;> rfl
  | _ => rfl

/-- The last conflicts of a run are those that count. -/
theorem toolchain_run (p : Progress) (us : List Update) :
    (p.run us).toolchain = ((us.filterMap Update.toolchain?).getLast?).getD p.toolchain := by
  induction us generalizing p with
  | nil => rfl
  | cons u us ih =>
    rw [run_cons, ih, toolchain_apply]
    cases hu : u.toolchain? with
    | none => simp [hu]
    | some conflicts =>
      rw [List.filterMap_cons_some hu, List.getLast?_cons]
      rfl

/-! ## Conflicting updates and rearrangements -/

/-- Two updates whose order counts. -/
inductive Update.Conflicts : Update → Update → Prop
  /-- Both cache one node. -/
  | cachings {u v : Update} (key : Value.Key) :
      (u.cachedAs? key).isSome → (v.cachedAs? key).isSome → Conflicts u v
  /-- Both record a failure of one build unit. -/
  | failures {u v : Update} {f g : Failure} :
      u.failure? = some f → v.failure? = some g → f.node.buildUnit = g.node.buildUnit →
        Conflicts u v
  /-- Both replace the toolchain conflicts. -/
  | toolchains {u v : Update} : u.toolchain?.isSome → v.toolchain?.isSome → Conflicts u v

/-- Conflicts go both ways. -/
theorem Update.Conflicts.symm {u v : Update} (h : u.Conflicts v) : v.Conflicts u := by
  cases h with
  | cachings key hu hv => exact .cachings key hv hu
  | failures hu hv hunit => exact .failures hv hu hunit.symm
  | toolchains hu hv => exact .toolchains hv hu

/-- The second list has the updates of the first one, each as often, and conflicting ones among them
stand in the same order. -/
def Rearranges (us vs : List Update) : Prop :=
  ∃ order : List (Fin us.length), order.Perm (List.finRange us.length) ∧
    vs = order.map us.get ∧
    order.Pairwise fun i j => (us.get i).Conflicts (us.get j) → i < j

namespace Rearranges

variable {us vs : List Update}

theorem perm (h : Rearranges us vs) : vs.Perm us := by
  obtain ⟨order, hperm, rfl, -⟩ := h
  simpa only [List.map_get_finRange] using hperm.map us.get

/-- What is gathered from updates of which any two conflict is gathered in the same order. -/
theorem filterMap_eq {β : Type} (h : Rearranges us vs) {f : Update → Option β}
    (hf : ∀ u v, (f u).isSome → (f v).isSome → u.Conflicts v) :
    vs.filterMap f = us.filterMap f := by
  obtain ⟨order, hperm, rfl, hpairs⟩ := h
  -- The positions that give something are the same, and they increase in both orders.
  have hincreasing : (order.filter fun i => (f (us.get i)).isSome).Pairwise (· < ·) := by
    refine (hpairs.filter _).imp_of_mem ?_
    intro i j hi hj hlt
    exact hlt (hf _ _ (List.mem_filter.1 hi).2 (List.mem_filter.1 hj).2)
  have hchosen : (order.filter fun i => (f (us.get i)).isSome) =
      (List.finRange us.length).filter fun i => (f (us.get i)).isSome :=
    (hperm.filter _).eq_of_pairwise' hincreasing ((List.pairwise_lt_finRange _).filter _)
  have hgathered (l : List (Fin us.length)) : (l.map us.get).filterMap f =
      (l.filter fun i => (f (us.get i)).isSome).filterMap fun i => f (us.get i) := by
    rw [List.filterMap_map, List.filterMap_filter]
    refine List.filterMap_congr fun i _ => ?_
    rw [Function.comp_apply]
    cases f (us.get i) <;> rfl
  calc
    (order.map us.get).filterMap f
      = ((List.finRange us.length).map us.get).filterMap f := by
        rw [hgathered, hgathered, hchosen]
    _ = us.filterMap f := by rw [List.map_get_finRange]

/-- The same holds of the updates that are not refused. -/
theorem filterMap_accepted {β : Type} (h : Rearranges us vs) {f : Update → Option β}
    (hf : ∀ u v, (f u).isSome → (f v).isSome → u.Conflicts v) :
    (us.filter Update.accepted).filterMap f = (vs.filter Update.accepted).filterMap f := by
  have hgives (u : Update) (hu : (if u.accepted then f u else none).isSome) : (f u).isSome := by
    cases haccepted : u.accepted with
    | true => rwa [haccepted, if_pos rfl] at hu
    | false =>
      rw [haccepted] at hu
      contradiction
  rw [List.filterMap_filter, List.filterMap_filter,
    h.filterMap_eq fun u v hu hv => hf u v (hgives u hu) (hgives v hv)]

/-- Without conflicts every order is a rearrangement. -/
theorem of_perm (h : vs.Perm us) (hus : us.Pairwise fun u v => ¬u.Conflicts v) :
    Rearranges us vs := by
  rw [← List.map_get_finRange us] at h
  obtain ⟨order, hmap, hperm⟩ := (congrFun₂ (List.eq_map_comp_perm us.get) vs _).mpr h
  refine ⟨order, hperm, hmap, ?_⟩
  refine (hperm.nodup_iff.2 (List.nodup_finRange _)).imp ?_
  intro i j hne hconflicts
  rcases lt_or_gt_of_ne hne with hlt | hgt
  · exact hlt
  · exact absurd hconflicts.symm (List.pairwise_iff_getElem.1 hus j i j.isLt i.isLt hgt)

end Rearranges

/-! ## What is read after a rearranged history -/

/-- Two progresses of which the same is read, but for failures behind the first one of a unit and
for the order in which units failed first. -/
structure Alike (p q : Progress) : Prop where
  flagsOf_eq : ∀ key, p.flagsOf key = q.flagsOf key
  find?_failures : ∀ unit, (p.failures.find? fun f => f.node.buildUnit = unit) =
    q.failures.find? fun f => f.node.buildUnit = unit
  toolchain_eq : p.toolchain = q.toolchain

/-- Rearranged histories lead from one progress to progresses of which the same is read. -/
theorem alike_attemptAll {us vs : List Update} (h : Rearranges us vs) (p : Progress) :
    (p.attemptAll us).Alike (p.attemptAll vs) := by
  have hcaching (key : Value.Key) :
      lastCaching? key (us.filter Update.accepted) = lastCaching? key (vs.filter Update.accepted) :=
    congrArg List.getLast? (h.filterMap_accepted fun u v => .cachings key)
  have hbuilt (key : Value.Key) :
      everBuilt key (us.filter Update.accepted) = everBuilt key (vs.filter Update.accepted) :=
    (h.perm.filter Update.accepted).any_eq.symm
  have hfailure (unit : Value.Key) :
      firstFailure? unit (us.filter Update.accepted) =
        firstFailure? unit (vs.filter Update.accepted) := by
    rw [firstFailure?, firstFailure?, ← List.head?_filter, ← List.head?_filter,
      List.filter_filterMap, List.filter_filterMap]
    refine congrArg List.head? (h.filterMap_accepted ?_)
    intro u v hu hv
    obtain ⟨f, hf⟩ := Option.isSome_iff_exists.1 hu
    obtain ⟨g, hg⟩ := Option.isSome_iff_exists.1 hv
    simp only [Option.filter_eq_some_iff, decide_eq_true_eq] at hf hg
    exact .failures hf.1 hg.1 (hf.2.trans hg.2.symm)
  have htoolchain : (us.filter Update.accepted).filterMap Update.toolchain? =
      (vs.filter Update.accepted).filterMap Update.toolchain? :=
    h.filterMap_accepted fun u v => .toolchains
  have hfailures (ws : List Update) (unit : Value.Key) :
      ((p.run ws).failures.find? fun f => f.node.buildUnit = unit) =
        (p.failures.find? fun f => f.node.buildUnit = unit).or (firstFailure? unit ws) := by
    rw [failures_run, List.find?_append]
    rfl
  rw [attemptAll_eq_run, attemptAll_eq_run]
  exact
    { flagsOf_eq := by
        intro key
        rw [flagsOf_run, flagsOf_run, hcaching, hbuilt]
      find?_failures := by
        intro unit
        rw [hfailures, hfailures, hfailure]
      toolchain_eq := by
        rw [toolchain_run, toolchain_run, htoolchain] }

end PackageBuild.Progress
