import PackageBuild.Proofs.Build.Keeping
import PackageBuild.Proofs.Classification.History
import PackageBuild.Proofs.Summary.Reading
import PackageBuild.Summary.ResultLog

/-!
# The log of results and the report

A result is logged when it comes, and it is recorded for the report at the end.  The two look at its
parts in different orders, and the report also weighs the failures of other nodes.  They agree: when
no node has two results, nothing but its own result decides what is known of it, and a failure of
another node of the unit counts only where nothing is known.

Main results:

- Theorem `Survey.outcomeIn_results`: after results of different nodes each of them has the outcome
  of its own result.
- Theorem `announces_line`: the line about the build of a node announces the outcome of its result.
- Theorem `log_agrees_with_report`: the lines about failures are those of the recorded failures, and
  every line about a unit announces its outcome in the report.
-/

namespace PackageBuild

open Progress (Update)

/-! ## Results of different nodes -/

/-- Nodes with parts of their shapes are known by their numbers. -/
theorem Node.Typed.id_eq {m n : Node} (hm : m.Typed) (hn : n.Typed) (h : m.key = n.key) :
    m.id = n.id := by
  obtain ⟨j, hj⟩ := (typed_iff.1 hm).1
  obtain ⟨k, hk⟩ := (typed_iff.1 hn).1
  rw [key, key, hj, hk, Value.Key.ofValue_int, Value.Key.ofValue_int, Value.Key.number.injEq] at h
  rw [hj, hk, h]

/-- What becomes of a node that one result alone is about. -/
def Result.outcome (r : Result) : Outcome :=
  if r.error?.isSome then .failed
  else if r.usedCache then if r.wasDelta.isTrue then .prebuiltDelta else .prebuilt
  else .built

namespace Result

variable {r : Result}

/-- A result with an error is a failure. -/
theorem outcome_of_error {error : Value} (h : r.error? = some error) : r.outcome = .failed := by
  simp [outcome, h]

/-- A result from a repository counts as cached. -/
theorem cached_outcome (h : r.error? = none) (hcache : r.usedCache = true) : r.outcome.Cached := by
  unfold outcome Outcome.Cached
  cases r.wasDelta.isTrue <;> simp [h, hcache]

/-- A result that was built counts as built. -/
theorem outcome_of_built (h : r.error? = none) (hcache : r.usedCache = false) :
    r.outcome = .built := by
  simp [outcome, h, hcache]

/-- Without an error a node is satisfied, built or not. -/
theorem satisfied_outcome (h : r.error? = none) : r.outcome.Satisfied := by
  cases hcache : r.usedCache with
  | true => exact .inr (cached_outcome h hcache)
  | false => exact .inl (outcome_of_built h hcache)

end Result

namespace Progress

variable {r : Result} {rs : List Result} {key : Value.Key}

/-- A result leaves the flags of all other nodes as they are. -/
theorem flagsOf_result_of_ne (p : Progress) (h : key ≠ r.node.key) :
    (p.apply (.result r)).flagsOf key = p.flagsOf key := by
  rw [flagsOf_apply]
  cases herror : r.error? <;> cases hcache : r.usedCache <;>
    simp [Update.change?, herror, hcache, h]

/-- Results about other nodes change nothing of a node. -/
theorem flagsOf_results_of_not_mem (p : Progress) (h : key ∉ rs.map fun r => r.node.key) :
    (p.run (rs.map .result)).flagsOf key = p.flagsOf key := by
  induction rs generalizing p with
  | nil => rfl
  | cons first rest ih =>
    rw [List.map_cons, List.mem_cons, not_or] at h
    rw [List.map_cons, run_cons, ih _ h.2, flagsOf_result_of_ne p h.1]

/-- After results of different nodes the flags of each are as if its own result were the only one.
-/
theorem flagsOf_results (p : Progress) (hkeys : (rs.map fun r => r.node.key).Nodup) (hr : r ∈ rs) :
    (p.run (rs.map .result)).flagsOf r.node.key = (p.apply (.result r)).flagsOf r.node.key := by
  induction rs generalizing p with
  | nil => contradiction
  | cons first rest ih =>
    obtain ⟨hfirst, hrest⟩ := List.nodup_cons.1 hkeys
    rw [List.map_cons, run_cons]
    rcases List.mem_cons.1 hr with rfl | hr
    · exact flagsOf_results_of_not_mem _ hfirst
    · have hne : r.node.key ≠ first.node.key := fun heq =>
        hfirst (List.mem_map.2 ⟨r, hr, heq⟩)
      rw [ih _ hrest hr, flagsOf_apply, flagsOf_result_of_ne p hne, ← flagsOf_apply]

/-- The failures of results are kept in their order. -/
theorem failures_results (rs : List Result) :
    (run {} (rs.map .result)).failures = rs.filterMap Result.failure? := by
  rw [failures_run, List.filterMap_map]
  rfl

end Progress

/-- After results of different nodes each of them has the outcome of its own result. -/
theorem Survey.outcomeIn_results {r : Result} {rs : List Result}
    (hkeys : (rs.map fun r => r.node.key).Nodup) (hr : r ∈ rs) :
    outcomeIn (Progress.run {} (rs.map .result)) r.node = r.outcome := by
  have hflags := Progress.flagsOf_results {} hkeys hr
  rw [Progress.flagsOf_apply] at hflags
  rw [outcomeIn, run_outcomeOf, Progress.isCached, Progress.isDelta, Progress.isAvailable, hflags,
    Result.outcome]
  cases herror : r.error? with
  | none =>
    have hfresh : Progress.flagsOf {} r.node.key = {} := rfl
    cases hcache : r.usedCache <;> simp [Update.change?, herror, hcache, hfresh]
  | some error =>
    -- The failure is among those recorded, and no flag of the node is set.
    have hfailure : r.failure? = some ⟨r.node, error, r.logFile⟩ := by
      rw [Result.failure?, herror, Option.map_some]
    have hrecorded : (firstFailures (rs.filterMap Result.failure?)).contains r.node.buildUnit =
        true := by
      rw [OrderedMap.contains, find?_firstFailures, List.find?_isSome]
      exact ⟨_, List.mem_filterMap.2 ⟨r, hr, hfailure⟩, by simp⟩
    rw [Progress.failures_results, hrecorded]
    simp [Update.change?, herror, Progress.flagsOf]

namespace Summary.ResultLog

/-! ## The lines of a log -/

/-- The line about a result. -/
def line (logger : String) (r : Result) : Log.Record := ⟨logger, (message r).1, (message r).2⟩

/-- The line about a failure. -/
def failureLine (logger : String) (f : Failure) : Log.Record :=
  ⟨logger, Log.error, "Failed to build " ++ f.node.fileName ++ ", error: " ++ f.error.messageText ++
    ", for details see: " ++ f.logFile.messageText⟩

/-- A result whose parts have their shapes can be logged. -/
theorem fault?_eq_none {r : Result} (hr : r.Typed) : fault? r = none := by
  obtain ⟨hnode, -, -, hfiles, -⟩ := Result.typed_iff.1 hr
  cases hitems : r.builtFiles with
  | tuple items => simp [fault?, hnode.pathFault?_eq_none, hnode.packageFault?_eq_none, hitems,
      Value.items]
  | _ =>
    rw [hitems] at hfiles
    contradiction

/-- Such a result makes one line. -/
theorem records_eq_line {r : Result} (hr : r.Typed) (logger : String) :
    records logger r = .ok [line logger r] := by
  rw [records_of_fault?_eq_none (fault?_eq_none hr), record,
    Log.record_of_le (threshold_le_message r)]
  rfl

/-- The line of a failed result is that of its failure. -/
theorem line_of_failure {r : Result} {f : Failure} (h : r.failure? = some f) (logger : String) :
    line logger r = failureLine logger f := by
  rw [Result.failure?, Option.map_eq_some_iff] at h
  obtain ⟨error, herror, rfl⟩ := h
  rw [line, message, herror]
  rfl

/-- The line of a result without a failure is no error. -/
theorem level_line_ne_error {r : Result} (h : r.failure? = none) (logger : String) :
    (line logger r).level ≠ Log.error := by
  rw [Result.failure?, Option.map_eq_none_iff] at h
  have hne : Log.debug ≠ Log.error ∧ Log.warning ≠ Log.error ∧ Log.info ≠ Log.error := by decide
  rw [line, message, h]
  cases r.node.isBuild <;> cases r.skipped <;> cases r.usedCache <;> simp [hne]

/-- The lines about failures are those of the failures that are kept, in their order. -/
theorem filter_error_lines (logger : String) (rs : List Result) :
    ((rs.map (line logger)).filter fun logged => logged.level = Log.error) =
      (rs.filterMap Result.failure?).map (failureLine logger) := by
  induction rs with
  | nil => rfl
  | cons r rs ih =>
    rw [List.map_cons, List.filter_cons]
    cases hfailure : r.failure? with
    | none =>
      rw [if_neg (by simpa using level_line_ne_error hfailure logger), ih,
        List.filterMap_cons_none hfailure]
    | some f =>
      rw [line_of_failure hfailure, if_pos (by simp [failureLine]), ih,
        List.filterMap_cons_some hfailure, List.map_cons]

/-! ## What a line announces -/

/-- A line begins with a front. -/
def BeginsWith (logged : Log.Record) (front : String) : Prop :=
  ∃ rest, logged.message = front ++ rest

/-- The fronts of lines about builds. -/
def fronts : List String := ["Failed to build ", "Skipped build ", "Prebuilt: ", "Built: "]

/-- Lines of different kinds are not confused. -/
theorem clash_fronts : ∀ front ∈ fronts, ∀ other ∈ fronts, other ≠ front →
    clash front.toList other.toList = true := by
  decide

/-- A line begins with one front only. -/
theorem BeginsWith.eq {logged : Log.Record} {front other : String} (h : BeginsWith logged front)
    (hfront : front ∈ fronts) (hother : other ∈ fronts) (h' : BeginsWith logged other) :
    other = front := by
  by_contra hne
  obtain ⟨rest, hrest⟩ := h
  obtain ⟨rest', hrest'⟩ := h'
  have hread := textBehind?_append_of_clash (clash_fronts front hfront other hother hne) rest
  rw [← hrest, hrest', textBehind?_append] at hread
  contradiction

/-- A line about the build of a node announces an outcome. -/
structure Announces (logged : Log.Record) (o : Outcome) : Prop where
  prebuilt : BeginsWith logged "Prebuilt: " → o.Cached
  built : BeginsWith logged "Built: " → o = .built
  /-- A skipped build announces that nothing is left to do, not why. -/
  skipped : BeginsWith logged "Skipped build " → o.Satisfied
  failed : logged.level = Log.error → o = .failed
  /-- Nothing else is announced of a build. -/
  one : BeginsWith logged "Prebuilt: " ∨ BeginsWith logged "Built: " ∨
    BeginsWith logged "Skipped build " ∨ logged.level = Log.error

/-- What a line announces is decided by its front, and by its level when it is an error. -/
theorem announces_of_front {logged : Log.Record} {front : String} {o : Outcome}
    (h : BeginsWith logged front) (hfront : front ∈ fronts)
    (hlevel : logged.level = Log.error ↔ front = "Failed to build ")
    (hfailed : front = "Failed to build " → o = .failed)
    (hskipped : front = "Skipped build " → o.Satisfied)
    (hprebuilt : front = "Prebuilt: " → o.Cached) (hbuilt : front = "Built: " → o = .built) :
    Announces logged o where
  prebuilt h' := hprebuilt (h.eq hfront (by decide) h').symm
  built h' := hbuilt (h.eq hfront (by decide) h').symm
  skipped h' := hskipped (h.eq hfront (by decide) h').symm
  failed herror := hfailed (hlevel.1 herror)
  one := by
    simp only [fronts, List.mem_cons, List.not_mem_nil, or_false] at hfront
    rcases hfront with rfl | rfl | rfl | rfl
    · exact .inr (.inr (.inr (hlevel.2 rfl)))
    · exact .inr (.inr (.inl h))
    · exact .inl h
    · exact .inr (.inl h)

/-- The line about the build of a node announces the outcome of its result. -/
theorem announces_line {r : Result} (hbuild : r.node.isBuild = true) (logger : String) :
    Announces (line logger r) r.outcome := by
  cases herror : r.error? with
  | some error =>
    have hfront : BeginsWith (line logger r) "Failed to build " := by
      simp only [BeginsWith, line, message, herror, String.append_assoc]
      exact ⟨_, rfl⟩
    have hlevel : (line logger r).level = Log.error := by simp only [line, message, herror]
    have houtcome : r.outcome = .failed := Result.outcome_of_error herror
    exact announces_of_front hfront (by decide) (by simp [hlevel]) (by simp [houtcome]) (by simp)
      (by simp) (by simp)
  | none =>
    have hlevel : (line logger r).level ≠ Log.error :=
      level_line_ne_error (by rw [Result.failure?, herror, Option.map_none]) logger
    -- A skipped build is announced as such, whether an artifact from before was found or not.
    cases hskipped : r.skipped with
    | true =>
      have hfront : BeginsWith (line logger r) "Skipped build " := by
        refine ⟨"for '" ++ r.node.fileName ++
          "' per user request. RPMs expected to be present: " ++ filesText (filesOf r), ?_⟩
        simp [line, message, herror, hbuild, hskipped, ← String.append_assoc]
      have houtcome : r.outcome.Satisfied := Result.satisfied_outcome herror
      exact announces_of_front hfront (by decide) (by simp [hlevel]) (by simp) (by simp [houtcome])
        (by simp) (by simp)
    | false =>
      cases hcache : r.usedCache with
      | true =>
        have hfront : BeginsWith (line logger r) "Prebuilt: " := by
          simp [BeginsWith, line, message, herror, hbuild, hskipped, hcache, String.append_assoc]
        have houtcome : r.outcome.Cached := Result.cached_outcome herror hcache
        exact announces_of_front hfront (by decide) (by simp [hlevel]) (by simp) (by simp)
          (by simp [houtcome]) (by simp)
      | false =>
        have hfront : BeginsWith (line logger r) "Built: " := by
          simp [BeginsWith, line, message, herror, hbuild, hskipped, hcache, String.append_assoc]
        have houtcome : r.outcome = .built := Result.outcome_of_built herror hcache
        exact announces_of_front hfront (by decide) (by simp [hlevel]) (by simp) (by simp)
          (by simp) (by simp [houtcome])

/-! ## The log and the report -/

/-- Results of different nodes are logged and recorded.  Each makes one line, the lines about
failures are those of the recorded failures in their order, and the line about the node that stands
for a unit announces the outcome of the unit. -/
theorem log_agrees_with_report {g : Graph} (hg : g.Typed) {rs : List Result}
    (hrs : ∀ r ∈ rs, r.Typed) (hids : (rs.map fun r => r.node.id).Nodup) (logger : String) :
    ∃ logged p c, rs.mapM (records logger) = .ok (logged.map fun record => [record]) ∧
      Progress.performAll {} (rs.map .result) = .ok p ∧ g.classify? p = .ok c ∧
      p.failures = rs.filterMap Result.failure? ∧
      (logged.filter fun record => record.level = Log.error) = p.failures.map (failureLine logger) ∧
      List.Forall₂ (fun r record => g.representative? r.node.buildUnit = some r.node →
        ∃ o, c.outcomes.find? r.node.buildUnit = some o ∧ Announces record o) rs logged := by
  have hkeys : (rs.map fun r => r.node.key).Nodup := by
    rw [List.Nodup, List.pairwise_map] at hids ⊢
    refine hids.imp_of_mem fun hr hr' hne heq => hne ?_
    exact (Result.typed_iff.1 (hrs _ hr)).1.id_eq (Result.typed_iff.1 (hrs _ hr')).1 heq
  have hlines : rs.mapM (records logger) =
      .ok ((rs.map (line logger)).map fun record => [record]) := by
    rw [List.map_map]
    exact Attempt.mapM_eq_ok_map fun r hr => records_eq_line (hrs r hr) logger
  have hupdates : ∀ u ∈ rs.map Update.result, u.Typed := List.forall_mem_map.2 hrs
  refine ⟨rs.map (line logger), _, _, hlines, Progress.performAll_eq_run hupdates {},
    hg.classify?_eq_ok _, Progress.failures_results rs, ?_, ?_⟩
  · rw [filter_error_lines, Progress.failures_results]
  · rw [List.forall₂_map_right_iff, List.forall₂_same]
    intro r hr hrepresentative
    have hbuild : r.node.isBuild = true :=
      (List.mem_filter.1 (Graph.of_representative? hrepresentative).1).2
    refine ⟨r.outcome, ?_, announces_line hbuild logger⟩
    rw [Survey.find?_outcomes, hrepresentative, Option.map_some, Survey.outcomeIn_results hkeys hr]

open Survey (sharedNode sharedGraph sharedNode_typed sharedGraph_typed)

/-- A unit that was there already, while a requirement and a second build of its archive fail. -/
def sharedResults : List Result :=
  [{ node := sharedNode 7 .run, error? := some (.text "") },
    { node := sharedNode 0 .build, usedCache := true, skipped := true, wasDelta := .bool true },
    { node := sharedNode 1 .build, error? := some (.text "broken") }]

theorem sharedResults_typed : ∀ r ∈ sharedResults, r.Typed := by
  have hfiles : Value.HasShape (.sequence .text) (.tuple []) := .sequence (by simp)
  intro r hr
  simp only [sharedResults, List.mem_cons, List.not_mem_nil, or_false] at hr
  rcases hr with rfl | rfl | rfl
  · exact Result.typed_iff.2 ⟨sharedNode_typed _ _, .present (.text ""), ⟨_, rfl⟩, hfiles, ⟨_, rfl⟩⟩
  · exact Result.typed_iff.2 ⟨sharedNode_typed _ _, .nothing _, ⟨_, rfl⟩, hfiles, ⟨_, rfl⟩⟩
  · exact Result.typed_iff.2
      ⟨sharedNode_typed _ _, .present (.text "broken"), ⟨_, rfl⟩, hfiles, ⟨_, rfl⟩⟩

/-- Two lines are about failures, and the unit has the outcome of the line about its first build. -/
theorem log_agrees_with_report_shared :
    ∃ (logged : List Log.Record) (p : Progress) (c : Classification),
      sharedResults.mapM (records logger) = .ok (logged.map fun record => [record]) ∧
      Progress.performAll {} (sharedResults.map .result) = .ok p ∧
      sharedGraph.classify? p = .ok c ∧
      (logged.filter fun record => record.level = Log.error).length = 2 ∧
      c.outcomes.find? (.text "/srpms/zlib.src.rpm") = some .prebuiltDelta := by
  have hids : (sharedResults.map fun r => r.node.id).Nodup := by
    simp [sharedResults, sharedNode]
  obtain ⟨logged, p, c, hlog, hp, hc, hfailures, herrors, -⟩ :=
    log_agrees_with_report sharedGraph_typed sharedResults_typed hids logger
  refine ⟨logged, p, c, hlog, hp, hc, ?_, ?_⟩
  · rw [herrors, hfailures]
    rfl
  · cases hp
    cases hc
    rfl

end Summary.ResultLog

end PackageBuild
