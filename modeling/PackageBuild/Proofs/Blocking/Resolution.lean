import PackageBuild.Proofs.Blocking
import PackageBuild.Proofs.Build.Soundness

/-!
# What naming all blockers gives

In a sound graph the blockers of all failed and of all unbuilt units are named, the failed ones
first. A failure is taken for a root cause, so that a failed unit with something to name is warned
of, and nothing else is logged.

Main results:

- Theorem `flatMap_warning`: the warnings are those of the nodes with an annotation.
- Theorem `resolve_complete`: what naming the blockers of a sound graph gives and logs.
-/

namespace PackageBuild.Blocking

variable {g : Graph} {p : Progress}

/-- The warning of a failed unit that others hold back. -/
def warningOf (n : Node) (text : String) : Log.Record :=
  ⟨logger, Log.warning, "Failed SRPM " ++ n.fileName ++ " has blocking predecessors: " ++ text⟩

/-- All units that failed or were never built have their blockers named, and some of the failed ones
are warned of. -/
structure Resolves (g : Graph) (c : Classification) (failed unbuilt : List Node)
    (records : List Log.Record) (blockers : Blockers) : Prop where
  /-- The first list are the members that failed. -/
  failed_eq : c.members .failed = .ok failed
  /-- The second list are the members that were never built. -/
  unbuilt_eq : c.members .unbuilt = .ok unbuilt
  /-- Each of them is the node that stands for its unit. -/
  representative : ∀ n ∈ failed ++ unbuilt, g.representative? n.buildUnit = some n
  /-- The units of the first list are the failed ones, each once. -/
  failed_units : (failed.map Node.buildUnit).Perm c.failedUnits
  /-- The units of the second list are those that were never built, each once. -/
  unbuilt_units : (unbuilt.map Node.buildUnit).Perm c.unbuiltUnits
  /-- The failed members stand by file name and path. -/
  failed_increasing : failed.Pairwise Node.Precedes
  /-- So do those that were never built. -/
  unbuilt_increasing : unbuilt.Pairwise Node.Precedes
  /-- Their units are annotated, in this order, and no others. -/
  keys : blockers.keys = (failed ++ unbuilt).map Node.buildUnit
  /-- An annotation is empty when no predecessor of the node failed or was never built. -/
  empty_iff : ∀ n ∈ failed ++ unbuilt, ∃ before, g.predecessors (.node n) = .ok before ∧
    (entryOf blockers n = "" ↔ ∀ q ∈ before, ¬c.Hinders q)
  /-- Logged are the warnings of the failed members with an annotation, in their order. -/
  warned : records = (failed.filter fun n => entryOf blockers n ≠ "").map fun n =>
    warningOf n (entryOf blockers n)

/-- Of failed nodes those with an annotation are warned of. -/
theorem flatMap_warning (nodes : List Node) (text : Node → String) :
    (nodes.flatMap fun n => warning .failed n (text n)) =
      (nodes.filter fun n => text n ≠ "").map fun n => warningOf n (text n) := by
  induction nodes with
  | nil => rfl
  | cons n rest ih =>
    rw [List.flatMap_cons, ih, List.filter_cons]
    by_cases hn : text n = ""
    · simp [warning, hn]
    · have hrecord : warning .failed n (text n) = [warningOf n (text n)] := by
        rw [warning, if_pos ⟨rfl, hn⟩, Log.record_of_le (by decide)]
        rfl
      simp [hrecord, hn]

/-- In a sound graph all failed and unbuilt units have their blockers named, whatever the progress
is, and failed units with blockers are warned of. -/
theorem resolve_complete (hg : g.Sound) (p : Progress) :
    ∃ c failed unbuilt records blockers, g.classify? p = .ok c ∧
      resolve g c = (records, .ok blockers) ∧ Resolves g c failed unbuilt records blockers := by
  have hpredecessors := fun n (hn : n ∈ g.nodes) => hg.exists_predecessors hn
  choose! before hbefore using hpredecessors
  have hunits := Survey.nodup_units_hindered g p
  have hentry := fun n => entryOf_ofList (n := n) hunits fun n =>
    Text.joined " " ((Survey.of g p).classification.tokensOf (before n))
  refine ⟨_, Survey.membersOf g p .failed, Survey.membersOf g p .unbuilt, _, _,
    hg.typed.classify?_eq_ok p, resolve_survey hg.typed hbefore p, ?_⟩
  exact
    { failed_eq := Survey.members_of hg.typed p .failed
      unbuilt_eq := Survey.members_of hg.typed p .unbuilt
      representative := fun n hn => (Survey.of_mem_hindered hn).1
      failed_units := Survey.perm_unitsWith g p .failed
      unbuilt_units := Survey.perm_unitsWith g p .unbuilt
      failed_increasing := Survey.pairwise_membersOf hg.typed p .failed
      unbuilt_increasing := Survey.pairwise_membersOf hg.typed p .unbuilt
      keys := by
        rw [OrderedMap.keys, OrderedMap.entries_ofList, List.map_map]
        · rfl
        · rwa [List.map_map]
      empty_iff := by
        intro n hn
        refine ⟨before n, hbefore n (Survey.of_mem_hindered hn).2, ?_⟩
        rw [hentry n hn, Classification.joined_tokensOf_eq_empty_iff]
      warned := by
        rw [← flatMap_warning _ (entryOf _)]
        exact List.flatMap_congr fun n hn => by rw [hentry n (List.mem_append_left _ hn)] }

/-! ## Archives that hold each other back -/

/-- Two archives of one name, each needed for the other one, and a third archive behind both. -/
def circularChanges : List Build.Change :=
  [.node (Build.newZlib "/old"), .node (Build.nodeNamed .build "zlib"),
    .node (Build.nodeNamed .build "curl"), Build.between 0 1, Build.between 1 0, Build.between 0 2,
    Build.between 1 2]

/-- The graph of the three archives. -/
def circularGraph : Graph := (Build.run {} circularChanges).graph

/-- A progress in which both archives of one name failed. -/
def circularProgress : Progress :=
  { failures := [⟨(Build.newZlib "/old").numbered 0, .text "first", .text ""⟩,
      ⟨(Build.nodeNamed .build "zlib").numbered 1, .text "second", .text ""⟩] }

/-- What the units of the three archives wait for. -/
def circularEntries : List (Value.Key × String) :=
  [(.text "/old/zlib.src.rpm", "zlib.src.rpm-FAIL"),
    (.text "/srpms/zlib.src.rpm", "zlib.src.rpm-FAIL"),
    (.text "/srpms/curl.src.rpm", "zlib.src.rpm-FAIL zlib.src.rpm-FAIL")]

theorem circularGraph_sound : circularGraph.Sound :=
  Build.sound_run (by simp [circularChanges]) (by decide)

theorem failed_circular : Survey.membersOf circularGraph circularProgress .failed =
    [(Build.newZlib "/old").numbered 0, (Build.nodeNamed .build "zlib").numbered 1] :=
  List.mergeSort_of_pairwise (by decide +kernel)

theorem unbuilt_circular : Survey.membersOf circularGraph circularProgress .unbuilt =
    [(Build.nodeNamed .build "curl").numbered 2] :=
  List.mergeSort_of_pairwise (by decide +kernel)

/-- The third archive waits for both, and each of these is warned of, since it waits for the other.
-/
theorem resolve_circular (c : Classification)
    (hc : circularGraph.classify? circularProgress = .ok c) :
    (resolve circularGraph c).2.map OrderedMap.entries = .ok circularEntries ∧
      (resolve circularGraph c).1.map Log.Record.message =
        ["Failed SRPM zlib.src.rpm has blocking predecessors: zlib.src.rpm-FAIL",
          "Failed SRPM zlib.src.rpm has blocking predecessors: zlib.src.rpm-FAIL"] := by
  cases (circularGraph_sound.typed.classify?_eq_ok circularProgress).symm.trans hc
  simp only [resolve, addOutcome, Survey.members_of circularGraph_sound.typed, failed_circular,
    unbuilt_circular]
  decide +kernel

/-- All three units are annotated, and the two failed ones are warned of. -/
theorem resolve_complete_circular :
    ∃ c failed unbuilt records blockers, circularGraph.Sound ∧
      circularGraph.classify? circularProgress = .ok c ∧
      resolve circularGraph c = (records, .ok blockers) ∧
      Resolves circularGraph c failed unbuilt records blockers ∧
      blockers.entries = circularEntries ∧ records.length = 2 := by
  obtain ⟨c, failed, unbuilt, records, blockers, hc, hresolve, h⟩ :=
    resolve_complete circularGraph_sound circularProgress
  refine ⟨c, failed, unbuilt, records, blockers, circularGraph_sound, hc, hresolve, h, ?_⟩
  obtain ⟨hentries, hmessages⟩ := resolve_circular c hc
  rw [hresolve] at hentries hmessages
  refine ⟨Except.ok.inj hentries, ?_⟩
  simpa using congrArg List.length hmessages

end PackageBuild.Blocking
