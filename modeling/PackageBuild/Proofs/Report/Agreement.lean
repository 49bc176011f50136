import PackageBuild.Proofs.Blocking
import PackageBuild.Proofs.Report.Answer
import PackageBuild.Proofs.Summary.Reading

/-!
# The two forms of a report

A report shows the build units twice, in lines for people and in rows for programs.  Both are made
from the members of the outcomes, and here a reader of the lines finds what the rows say.

Main results:

- Theorem `agrees_of_shown`: what is shown of one progress agrees.
- Theorem `make_agrees`: the lines, the rows, the counts and the blockers of every report agree.
-/

namespace PackageBuild

/-- The rows with an outcome, in their order. -/
def Report.rowsWith (r : Report) (o : Outcome) : List Summary.Row :=
  r.rows.filter fun row => row.outcome = o

/-- What a reader of the lines finds below the title of an outcome. -/
def Report.itemsOf (r : Report) (o : Outcome) : List String :=
  Summary.itemsUnder (Summary.header o) r.lines

/-- The lines and the rows of a report say the same of the members of the outcomes. -/
structure Report.Agrees (r : Report) (members : Outcome → List Node) : Prop where
  /-- The lists are the members of the outcomes. -/
  members_eq : ∀ o, r.classification.members o = .ok (members o)
  /-- The rows with an outcome name its members by the file names of their archives. -/
  packages : ∀ o, (r.rowsWith o).map Summary.RowOf.package = (members o).map Node.fileName
  /-- The items of an outcome are the packages of its rows, except for failed units. -/
  items : ∀ o, o ≠ .failed → r.itemsOf o = (r.rowsWith o).map Summary.RowOf.package
  /-- The items of failed units are the packages of their rows, each followed by the error and the
  log file of the failure of the unit. -/
  failed_items : ∃ failures : List Failure,
    (members .failed).map (fun n => r.classification.failures.find? n.buildUnit) =
      failures.map some ∧
    r.itemsOf .failed = List.zipWith (fun package failure =>
      package ++ " , error: " ++ failure.error.messageText ++
        ", for details see: " ++ failure.logFile.messageText)
      ((r.rowsWith .failed).map Summary.RowOf.package) failures
  /-- One line begins with the label of an outcome, and the number of the items follows. -/
  counted : ∀ o, Summary.textsBehind (Summary.countLabel o) r.lines =
    [Text.naturalText (r.itemsOf o).length]
  /-- An outcome has as many items as rows. -/
  length_items : ∀ o, (r.itemsOf o).length = (r.rowsWith o).length
  /-- The title of an outcome is there when it has items. -/
  titled : ∀ o, (∃ line ∈ r.lines, line.text = Summary.header o) ↔ r.itemsOf o ≠ []
  /-- The rows stand in blocks by outcome, in report order. -/
  blocks : r.rows = Outcome.all.flatMap r.rowsWith
  /-- There is a row for every unit. -/
  total : r.rows.length = r.classification.total
  /-- The row of a failed or unbuilt unit has its blocker. -/
  blocker : ∀ o, o = .failed ∨ o = .unbuilt →
    List.Forall₂ (fun n row => r.blockers.find? n.buildUnit = some row.blocker)
      (members o) (r.rowsWith o)
  /-- All other rows have none. -/
  no_blocker : ∀ row ∈ r.rows, row.outcome ≠ .failed → row.outcome ≠ .unbuilt → row.blocker = ""
  /-- The units with a blocker are the failed and the unbuilt ones. -/
  blocked : ∀ unit, unit ∈ r.blockers.keys ↔
    r.classification.outcomes.find? unit = some .failed ∨
      r.classification.outcomes.find? unit = some .unbuilt

namespace Report

open Telemetry

variable {ν : Type} {g : Graph} {p : Progress}

/-- The units with blockers are the failed and the unbuilt ones. -/
theorem mem_keys_blockers {blockers : Blocking.Blockers}
    (h : (Blocking.resolve g (Survey.of g p).classification).2 = .ok blockers) (unit : Value.Key) :
    unit ∈ blockers.keys ↔
      (Survey.of g p).classification.outcomes.find? unit = some .failed ∨
        (Survey.of g p).classification.outcomes.find? unit = some .unbuilt := by
  obtain ⟨failed, unbuilt, hfailed, hunbuilt, hkeys⟩ := Blocking.mem_keys_resolve h
  rw [hkeys, Survey.eq_membersOf hfailed, Survey.eq_membersOf hunbuilt,
    Survey.mem_units_membersOf_iff, Survey.mem_units_membersOf_iff]

/-- The row of a blocked unit has its blocker. -/
theorem find?_blocker_of_rowOf {blockers : Blocking.Blockers} {o : Outcome} {n : Node}
    (ho : o = .failed ∨ o = .unbuilt) (h : n.buildUnit ∈ blockers.keys) :
    blockers.find? n.buildUnit = some (Summary.rowOf "" blockers o n).blocker := by
  obtain ⟨blocker, hblocker⟩ := OrderedMap.mem_keys_iff.1 h
  rcases ho with rfl | rfl <;>
    simp [Summary.rowOf, Outcome.isBlocked, hblocker]

/-- What is shown of one progress agrees. -/
theorem agrees_of_shown {r : Report} {options : Summary.Options}
    (hc : r.classification = (Survey.of g p).classification)
    (hblockers : (Blocking.resolve g r.classification).2 = .ok r.blockers)
    (hrows : Summary.rows r.classification r.blockers = .ok r.rows)
    (hlines : Summary.lines r.classification options = .ok r.lines) :
    ∃ members, r.Agrees members := by
  obtain ⟨members, hmembers, hblocks⟩ := Summary.rows_eq_ok_iff.1 hrows
  obtain ⟨texts, htexts, hsummary⟩ := Summary.lines_eq_ok_iff.1 hlines
  have hrowsWith (o : Outcome) : r.rowsWith o = Summary.rowBlock r.blockers members o := by
    rw [rowsWith, hblocks, Summary.filter_rowBlocks]
  have hpackages (o : Outcome) :
      (r.rowsWith o).map Summary.RowOf.package = (members o).map Node.fileName := by
    rw [hrowsWith, Summary.rowBlock, List.map_map]
    rfl
  have hitems (o : Outcome) : r.itemsOf o = texts o := by
    rw [itemsOf, hsummary, Summary.itemsUnder_header]
  have hmembersOf (o : Outcome) : members o = Survey.membersOf g p o :=
    Survey.eq_membersOf (hc ▸ hmembers o)
  obtain ⟨failures, hfailures, hfailed⟩ := (htexts .failed).exists_failures (hmembers .failed)
  have hlength (o : Outcome) : (texts o).length = (members o).length :=
    (htexts o).length_eq (hmembers o)
  have hkeys (unit : Value.Key) : unit ∈ r.blockers.keys ↔
      r.classification.outcomes.find? unit = some .failed ∨
        r.classification.outcomes.find? unit = some .unbuilt := by
    rw [hc]
    exact mem_keys_blockers (hc ▸ hblockers) unit
  refine ⟨members, ?_⟩
  exact
    { members_eq := hmembers
      packages := hpackages
      items := by
        intro o ho
        rw [hitems, hpackages, (htexts o).eq_map_fileName (hmembers o) ho]
      failed_items := by
        refine ⟨failures, hfailures, ?_⟩
        rw [hitems, hpackages, hfailed, List.zipWith_map_left]
        rfl
      counted := by
        intro o
        rw [hsummary, Summary.textsBehind_countLabel, hitems, hlength, hc, Survey.count_of,
          hmembersOf]
      length_items := by
        intro o
        rw [hitems, hlength, hrowsWith, Summary.rowBlock, List.length_map]
      titled := by
        intro o
        rw [hitems, hsummary, Summary.exists_header_iff]
      blocks := hblocks.trans (List.flatMap_congr fun o _ => (hrowsWith o).symm)
      total := by
        rw [hc] at hrows ⊢
        exact Summary.length_rows hrows
      blocker := by
        intro o ho
        rw [hrowsWith, Summary.rowBlock, List.forall₂_map_right_iff, List.forall₂_same]
        intro n hn
        refine find?_blocker_of_rowOf ho ((hkeys _).2 ?_)
        have hunit : r.classification.outcomes.find? n.buildUnit = some o := by
          rw [hmembersOf] at hn
          rw [hc]
          exact Survey.mem_units_membersOf_iff.1 (List.mem_map_of_mem hn)
        rcases ho with rfl | rfl
        · exact .inl hunit
        · exact .inr hunit
      no_blocker := by
        intro row hrow hfailed hunbuilt
        rw [hblocks] at hrow
        obtain ⟨o, -, hrow⟩ := List.mem_flatMap.1 hrow
        obtain ⟨n, -, rfl⟩ := List.mem_map.1 hrow
        cases o with
        | failed => contradiction
        | unbuilt => contradiction
        | _ => rfl
      blocked := hkeys }

/-- What a report shows was shown of one progress. -/
theorem exists_shown_of_reported {configuration : Configuration} {s : Site ν} {r : Report}
    (h : reported configuration s = .ok r) :
    r.classification = (Survey.of s.graph s.progress).classification ∧
      (Blocking.resolve s.graph r.classification).2 = .ok r.blockers ∧
      Summary.rows r.classification r.blockers = .ok r.rows ∧
      Summary.lines r.classification (optionsOf s.progress configuration.allowRebuilds) =
        .ok r.lines := by
  unfold reported Request.shownAt at h
  rw [Request.run_read_report, Shown.ofBoth, Shown.ofTable] at h
  simp only [Attempt.bind_eq_ok_iff, Attempt.mapError_eq_ok_iff] at h
  obtain ⟨_, ⟨_, ⟨c, hc, blockers, hblockers, rows, hrows, hshown⟩, lines, hlines, hboth⟩,
    written, -, hr⟩ := h
  cases eq_classification_of_surveyed hc
  cases hshown
  cases hboth
  cases hr
  exact ⟨rfl, hblockers, hrows, hlines⟩

/-- The lines, the rows, the counts and the blockers of every report agree. -/
theorem make_agrees {waiting : Work ν Unit} {given? : Option Configuration} {logger : String}
    {t : Trace} {s : Site ν} {r : Report}
    (h : ((make waiting given? logger).outcome t s).1 = .ok r) : ∃ members, r.Agrees members := by
  obtain ⟨configuration, s', hreported⟩ := exists_reported_of_make h
  obtain ⟨hc, hblockers, hrows, hlines⟩ := exists_shown_of_reported hreported
  exact agrees_of_shown hc hblockers hrows hlines

/-! ## Blocked archives of one name -/

/-- A site at which an archive failed on which another one of the same name waits. -/
def blockedSite : Site Unit where
  graph := { Survey.zlibGraph with edges := [(2, 1), (0, 1)] }
  progress := Survey.zlibProgress
  notes := ()

/-- The predecessors of each node of the site are found. -/
theorem blockedSite_finds (n : Node) (hn : n ∈ blockedSite.graph.nodes) :
    ∃ nodes, blockedSite.graph.predecessors (.node n) = .ok nodes := by
  simp only [blockedSite, Survey.zlibGraph, List.mem_cons, List.not_mem_nil, or_false] at hn
  rcases hn with rfl | rfl | rfl <;> exact ⟨_, rfl⟩

/-- A report is made of two units, and each of them is shown with its blockers. -/
theorem make_agrees_blocked :
    ∃ r members, ((make (pure ()) (some {}) "builder").outcome {} blockedSite).1 = .ok r ∧
      r.Agrees members ∧ r.rows.length = 2 ∧ .text "/new/zlib.src.rpm" ∈ r.blockers.keys ∧
        .text "/old/zlib.src.rpm" ∈ r.blockers.keys := by
  obtain ⟨r, hr⟩ :=
    exists_reported (s := blockedSite) Survey.zlibGraph_typed blockedSite_finds false
  have hmake : ((make (pure ()) (some {}) "builder").outcome {} blockedSite).1 = .ok r := by
    obtain ⟨t', s', hends, -⟩ := ends_make (s := blockedSite) (some {}) "builder" {}
    rw [hends]
    exact hr
  obtain ⟨members, hagrees⟩ := make_agrees hmake
  obtain ⟨hc, -⟩ := exists_shown_of_reported hr
  refine ⟨r, members, hmake, hagrees, ?_, ?_, ?_⟩
  · rw [hagrees.total, hc]
    rfl
  · rw [hagrees.blocked, hc]
    exact .inl rfl
  · rw [hagrees.blocked, hc]
    exact .inr rfl

end Report

end PackageBuild
