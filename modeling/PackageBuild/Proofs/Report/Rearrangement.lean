import PackageBuild.Proofs.Classification.Likeness
import PackageBuild.Proofs.Graph.Numbering
import PackageBuild.Proofs.Report.Agreement

/-!
# Reports of rearranged histories

Workers report their results in the order in which they finish.  A report shows the same whatever
this order was, as long as conflicting updates came in one order; and results of the nodes of
different build units never conflict.

Main results:

- Theorem `related_reported`: like progresses are reported alike.
- Theorem `rearranges_results`: results of different build units may come in any order.
- Theorem `sameReport_rearranged`: rearranged histories lead to the same report.
-/

namespace PackageBuild

/-- Two reports show the same. -/
structure Report.Alike (r r' : Report) : Prop where
  classification : r.classification.Alike r'.classification
  blockers_eq : r.blockers = r'.blockers
  rows_eq : r.rows = r'.rows
  lines_eq : r.lines = r'.lines
  tablePath_eq : r.tablePath? = r'.tablePath?
  tableWritten_eq : r.tableWritten = r'.tableWritten

namespace Report

open Attempt (Related)
open Progress (Update Rearranges)
open Telemetry

variable {ν : Type} {g : Graph} {p q : Progress}

/-! ## What is shown of like progresses -/

/-- What is shown is the same, but for the order of failures. -/
structure Shown.Alike (shown other : Shown) : Prop where
  classification : shown.classification.Alike other.classification
  blockers_eq : shown.blockers = other.blockers
  rows_eq : shown.rows = other.rows
  lines_eq : shown.lines = other.lines

/-- Whether there is a survey at all depends on the graph alone. -/
theorem related_surveyed (h : p.Alike q) :
    Related Classification.Alike (surveyed g (Survey.of g p)) (surveyed g (Survey.of g q)) := by
  unfold surveyed
  cases g.unitFault? with
  | some fault => exact .error _
  | none =>
    cases g.packageFault? with
    | some fault => exact .error _
    | none => exact .ok (Survey.alike_of h g)

/-- Tables of progresses that are alike are alike. -/
theorem related_ofTable (h : p.Alike q) :
    Related Shown.Alike (Shown.ofTable g (Survey.of g p)) (Shown.ofTable g (Survey.of g q)) := by
  refine (related_surveyed h).bind fun c d hcd => ?_
  rw [Blocking.resolve_congr hcd]
  refine Related.bind_same fun blockers => ?_
  rw [Summary.rows_congr hcd.showsAlike fun _ => rfl]
  exact Related.bind_same fun rows => .ok ⟨hcd, rfl, rfl, rfl⟩

/-- Like progresses are shown alike. -/
theorem related_shown (h : p.Alike q) (allowRebuilds : Bool) :
    Related Shown.Alike (((Request.report allowRebuilds).read g).run p)
      (((Request.report allowRebuilds).read g).run q) := by
  have hoptions : optionsOf p allowRebuilds = optionsOf q allowRebuilds := by
    obtain ⟨hbinary, hsource⟩ := Prod.mk.inj h.toolchain_eq
    rw [optionsOf, optionsOf, hbinary, hsource]
  rw [Request.run_read_report, Request.run_read_report, hoptions,
    Summary.lines_congr (Survey.alike_of h g).showsAlike]
  refine (related_ofTable h).bind fun shown other hshown => ?_
  exact Related.bind_same fun lines =>
    .ok ⟨hshown.classification, hshown.blockers_eq, hshown.rows_eq, rfl⟩

/-- Like progresses are reported alike. -/
theorem related_reported (configuration : Configuration) (s : Site ν) (h : p.Alike q) :
    Related Alike (reported configuration { s with progress := p })
      (reported configuration { s with progress := q }) := by
  refine (related_shown h configuration.allowRebuilds).bind fun shown other hshown => ?_
  rw [hshown.rows_eq]
  exact Related.bind_same fun written =>
    .ok ⟨hshown.classification, hshown.blockers_eq, hshown.rows_eq, hshown.lines_eq, rfl, rfl⟩

/-! ## Results of different build units -/

/-- A result caches no node but its own. -/
theorem key_of_cachedAs? {r : Result} {key : Value.Key}
    (h : ((Update.result r).cachedAs? key).isSome) : r.node.key = key := by
  by_contra hne
  simp [Update.cachedAs?, hne] at h

/-- The failure of a result is one of its node. -/
theorem node_of_failure? {r : Result} {f : Failure} (h : (Update.result r).failure? = some f) :
    f.node = r.node := by
  obtain ⟨error, -, rfl⟩ := Option.map_eq_some_iff.1 h
  rfl

/-- Results of nodes of different build units do not conflict. -/
theorem not_conflicts_results (hg : g.Numbered) {r r' : Result} (hr : r.node ∈ g.nodes)
    (hr' : r'.node ∈ g.nodes) (hunits : r.node.buildUnit ≠ r'.node.buildUnit) :
    ¬(Update.result r).Conflicts (.result r') := by
  intro hconflicts
  cases hconflicts with
  | cachings key hcached hcached' =>
    have hkey : r.node.key = r'.node.key :=
      (key_of_cachedAs? hcached).trans (key_of_cachedAs? hcached').symm
    exact hunits (congrArg Node.buildUnit (hg.eq_of_key_eq hr hr' hkey))
  | failures hf hf' hunit =>
    rw [node_of_failure? hf, node_of_failure? hf'] at hunit
    exact hunits hunit
  | toolchains htoolchain => contradiction

/-- Results of nodes of different build units may come in any order. -/
theorem rearranges_results (hg : g.Numbered) {rs rs' : List Result} (hperm : rs'.Perm rs)
    (hnodes : ∀ r ∈ rs, r.node ∈ g.nodes)
    (hunits : rs.Pairwise fun r r' => r.node.buildUnit ≠ r'.node.buildUnit) :
    Rearranges (rs.map .result) (rs'.map .result) := by
  refine Rearranges.of_perm (hperm.map _) (List.pairwise_map.2 ?_)
  refine hunits.imp_of_mem ?_
  intro r r' hr hr' hne
  exact not_conflicts_results hg (hnodes r hr) (hnodes r' hr') hne

/-! ## The same report -/

/-- A site after a history of updates. -/
def Site.after (s : Site ν) (us : List Update) : Site ν :=
  { s with progress := s.progress.attemptAll us }

/-- After either of two histories a report ends at a site with the same answer: with one error, or
with reports that show the same. -/
def SameReport (s : Site ν) (us vs : List Update) : Prop :=
  ∀ (given? : Option Configuration) (logger : String), ∃ answer other,
    Ends (make (pure ()) given? logger) (s.after us) answer (fun _ => True) ∧
    Ends (make (pure ()) given? logger) (s.after vs) other (fun _ => True) ∧
    Related Alike answer other

/-- Rearranged histories lead to the same report, and so do the results of workers on nodes of
different build units, in whatever order they come. -/
theorem sameReport_rearranged (s : Site ν) :
    (∀ us vs, Rearranges us vs → SameReport s us vs) ∧
    (∀ rs rs' : List Result, s.graph.Numbered → rs'.Perm rs →
      (∀ r ∈ rs, r.node ∈ s.graph.nodes) →
      (rs.Pairwise fun r r' => r.node.buildUnit ≠ r'.node.buildUnit) →
        SameReport s (rs.map .result) (rs'.map .result)) := by
  have hsame (us vs : List Update) (h : Rearranges us vs) : SameReport s us vs := by
    intro given? logger
    refine ⟨_, _, ends_make given? logger, ends_make given? logger, ?_⟩
    exact Related.bind_same fun configuration =>
      related_reported configuration s (Progress.alike_attemptAll h s.progress)
  refine ⟨hsame, ?_⟩
  intro rs rs' hg hperm hnodes hunits
  exact hsame _ _ (rearranges_results hg hperm hnodes hunits)

/-! ## Two archives of one name -/

open Survey (zlibNode zlibGraph)

/-- A site at which nothing is done yet. -/
def idleSite : Site Unit := { blockedSite with progress := {} }

/-- The first build of an archive fails. -/
def failNew : Update := .fail ⟨zlibNode 0 "/new", .text "first", .text ""⟩

/-- The other archive has an artifact from before. -/
def cacheOld : Update := .cache (zlibNode 1 "/old") (.bool true)

/-- The second build of the archive fails as well. -/
def failNewAgain : Update := .fail ⟨zlibNode 2 "/new", .text "second", .text ""⟩

/-- A failure of the other archive is reported late. -/
def failOld : Update := .fail ⟨zlibNode 1 "/old", .text "late", .text ""⟩

/-- Updates of different archives do not conflict. -/
theorem not_conflicts_cacheOld_failNew : ¬cacheOld.Conflicts failNew := by
  intro h
  cases h with
  | cachings key _ hcached => contradiction
  | failures hfailure => contradiction
  | toolchains htoolchain => contradiction

/-- Failures of different archives do not conflict. -/
theorem not_conflicts_failOld_failNewAgain : ¬failOld.Conflicts failNewAgain := by
  intro h
  cases h with
  | cachings key hcached => contradiction
  | failures hold hnew hunit =>
    cases hold
    cases hnew
    contradiction
  | toolchains htoolchain => contradiction

/-- The failures of one archive keep their order, and all else changes places. -/
theorem rearranges_archives :
    Rearranges [failNew, cacheOld, failNewAgain, failOld]
      [cacheOld, failNew, failOld, failNewAgain] := by
  refine ⟨[1, 0, 3, 2], by decide, rfl, ?_⟩
  simp only [List.pairwise_cons, List.mem_cons, List.not_mem_nil, or_false, forall_eq_or_imp,
    forall_eq]
  -- Only the first two and the last two updates change places.
  exact ⟨⟨fun h => absurd h not_conflicts_cacheOld_failNew, fun _ => by decide,
    fun _ => by decide⟩, ⟨fun _ => by decide, fun _ => by decide⟩,
    fun h => absurd h not_conflicts_failOld_failNewAgain, fun _ h => h.elim, .nil⟩

/-- The result of the second build of the archive. -/
def resultNew : Result := { node := zlibNode 2 "/new", error? := some (.text "third") }

/-- The result of the build of the other archive. -/
def resultOld : Result := { node := zlibNode 1 "/old" }

/-- After either history a report is made, and it shows the first failure of the failed archive; and
two results may come in either order. -/
theorem sameReport_rearranged_archives :
    (∃ r r' : Report,
      Ends (make (pure ()) (some {}) "builder")
        (idleSite.after [failNew, cacheOld, failNewAgain, failOld]) (.ok r) (fun _ => True) ∧
      Ends (make (pure ()) (some {}) "builder")
        (idleSite.after [cacheOld, failNew, failOld, failNewAgain]) (.ok r') (fun _ => True) ∧
      r.Alike r' ∧
      (r'.classification.failures.find? (.text "/new/zlib.src.rpm")).map Failure.error =
        some (.text "first")) ∧
    SameReport idleSite [.result resultNew, .result resultOld]
      [.result resultOld, .result resultNew] := by
  obtain ⟨hrearranged, hresults⟩ := sameReport_rearranged idleSite
  constructor
  · obtain ⟨answer, other, hends, hother, hrelated⟩ :=
      hrearranged _ _ rearranges_archives (some {}) "builder"
    obtain ⟨r, hr⟩ := exists_reported
      (s := idleSite.after [failNew, cacheOld, failNewAgain, failOld])
      Survey.zlibGraph_typed blockedSite_finds false
    have hmake := ends_make (s := idleSite.after [failNew, cacheOld, failNewAgain, failOld])
      (some {}) "builder"
    have hanswer : answer = .ok r := (hends.unique hmake).trans hr
    subst hanswer
    cases hrelated with
    | @ok _ r' halike =>
      refine ⟨r, r', hends, hother, halike, ?_⟩
      obtain ⟨hc, -⟩ := exists_shown_of_reported hr
      rw [← halike.classification.find?_failures, hc]
      rfl
  · refine hresults [resultNew, resultOld] [resultOld, resultNew] rfl (.swap _ _ _) ?_ ?_
    · intro r hr
      simp only [List.mem_cons, List.not_mem_nil, or_false] at hr
      rcases hr with rfl | rfl
      · exact List.mem_cons_of_mem _ (List.mem_cons_of_mem _ List.mem_cons_self)
      · exact List.mem_cons_of_mem _ List.mem_cons_self
    · simp only [List.pairwise_cons, List.mem_cons, List.not_mem_nil, or_false, forall_eq]
      exact ⟨by decide, fun _ h => h.elim, .nil⟩

end Report

end PackageBuild
