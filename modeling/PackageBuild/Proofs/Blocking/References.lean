import PackageBuild.Proofs.Blocking
import PackageBuild.Proofs.Build.Soundness
import PackageBuild.Proofs.Summary.Rows

/-!
# Tokens as references to rows

What holds a unit back is named by the file name of a predecessor, which is often no build node.
The row that the token means is that of the unit of the predecessor: both have one source archive,
hence one file name and one outcome.

Main results:

- Theorem `leadsTo_tokenOf`: the token of a hindering node leads to the row of its unit.
- Theorem `rows_refer`: the rows of a sound graph refer to each other only.
-/

namespace PackageBuild.Summary

variable {g : Graph} {p : Progress} {q : Node} {o : Outcome} {rows : List Row}

/-- A token leads to rows: it has one of the two ends, and whatever stands in front of an end is the
package of a row with the outcome at the end of the token. -/
structure LeadsTo (rows : List Row) (token : String) : Prop where
  ends : ∃ package, token = package ++ Blocking.failedSuffix ∨
    token = package ++ Blocking.unbuiltSuffix
  failed : ∀ package, token = package ++ Blocking.failedSuffix →
    ∃ row ∈ rows, row.package = package ∧ row.outcome = .failed
  unbuilt : ∀ package, token = package ++ Blocking.unbuiltSuffix →
    ∃ row ∈ rows, row.package = package ∧ row.outcome = .unbuilt

/-- The rows of the failed and of the unbuilt units name what comes before the nodes of these units,
and what they name are rows. -/
structure Refers (g : Graph) (c : Classification) (members : Outcome → List Node)
    (rows : List Row) : Prop where
  /-- The lists are the members of the outcomes. -/
  members_eq : ∀ o, c.members o = .ok (members o)
  /-- A member stands for its unit. -/
  representative : ∀ o, ∀ n ∈ members o, g.representative? n.buildUnit = some n
  /-- The rows are those of the members, and they join the tokens of the hindering predecessors. -/
  blocker : ∀ o, o = .failed ∨ o = .unbuilt →
    List.Forall₂ (fun n row => row.package = n.fileName ∧
        ∃ before, g.predecessors (.node n) = .ok before ∧
          row.blocker = Text.joined " " (c.tokensOf before))
      (members o) (rows.filter fun row => row.outcome = o)
  /-- Each of these tokens leads to rows. -/
  leads : ∀ o, o = .failed ∨ o = .unbuilt → ∀ n ∈ members o, ∀ before,
    g.predecessors (.node n) = .ok before → ∀ token ∈ c.tokensOf before, LeadsTo rows token

/-- The token of a hindering node leads to rows when there is a row with the file name of the node
and the outcome of its unit. -/
theorem leadsTo_tokenOf {c : Classification} (hq : c.Hinders q)
    (hrow : ∀ o, c.outcomeOf? q = some o →
      ∃ row ∈ rows, row.package = q.fileName ∧ row.outcome = o) : LeadsTo rows (c.tokenOf q) := by
  rcases hq with hfailed | hunbuilt
  · rw [Classification.tokenOf_of_failed hfailed]
    refine ⟨⟨q.fileName, .inl rfl⟩, fun package h => ?_, fun package h => ?_⟩
    · rw [← (String.append_left_inj _).1 h]
      exact hrow _ hfailed
    · exact absurd h (Blocking.append_failedSuffix_ne _ _)
  · rw [Classification.tokenOf_of_unbuilt hunbuilt]
    refine ⟨⟨q.fileName, .inr rfl⟩, fun package h => ?_, fun package h => ?_⟩
    · exact absurd h.symm (Blocking.append_failedSuffix_ne _ _)
    · rw [← (String.append_left_inj _).1 h]
      exact hrow _ hunbuilt

/-- The unit of a node with an outcome has a row with the file name of the node. -/
theorem exists_row (hg : g.Typed) (hq : q ∈ g.nodes)
    (ho : (Survey.of g p).classification.outcomeOf? q = some o) (blockers : Blocking.Blockers) :
    ∃ row ∈ Outcome.all.flatMap (rowBlock blockers (Survey.membersOf g p)),
      row.package = q.fileName ∧ row.outcome = o := by
  obtain ⟨n, hn, hunit⟩ := List.mem_map.1 (Survey.mem_units_membersOf_iff.2 ho)
  refine ⟨rowOf "" blockers o n, ?_, ?_, rfl⟩
  · exact List.mem_flatMap.2 ⟨o, Outcome.mem_all o, List.mem_map_of_mem hn⟩
  · exact (hg n (Survey.mem_nodes_of_mem_membersOf hn)).fileName_eq (hg q hq) hunit

/-- In a sound graph the rows of the failed and of the unbuilt units refer to rows only, whatever
the progress is. -/
theorem rows_refer (hg : g.Sound) (p : Progress) :
    ∃ c blockers rs members, g.classify? p = .ok c ∧ (Blocking.resolve g c).2 = .ok blockers ∧
      Summary.rows c blockers = .ok rs ∧ Refers g c members rs := by
  have hpredecessors := fun n (hn : n ∈ g.nodes) => hg.exists_predecessors hn
  choose! before hbefore using hpredecessors
  have hmembers := Survey.members_of hg.typed p
  have hresolve := Blocking.resolve_survey hg.typed hbefore p
  refine ⟨_, _, _, Survey.membersOf g p, hg.typed.classify?_eq_ok p, congrArg Prod.snd hresolve,
    rows_eq_ok_iff.2 ⟨_, hmembers, rfl⟩, ?_⟩
  exact
    { members_eq := hmembers
      representative := fun o n hn => (Survey.of_mem_membersOf hn).1
      blocker := by
        intro o ho
        rw [filter_rowBlocks, rowBlock, List.forall₂_map_right_iff, List.forall₂_same]
        intro n hn
        refine ⟨rfl, before n, hbefore n (Survey.mem_nodes_of_mem_membersOf hn), ?_⟩
        have hlisted : n ∈ Survey.membersOf g p .failed ++ Survey.membersOf g p .unbuilt := by
          rcases ho with rfl | rfl
          · exact List.mem_append_left _ hn
          · exact List.mem_append_right _ hn
        have hblocked : o.isBlocked = true := by
          rcases ho with rfl | rfl <;> rfl
        simp only [rowOf, hblocked, if_true]
        exact Blocking.entryOf_ofList (Survey.nodup_units_hindered g p) _ hlisted
      leads := by
        intro o _ n hn before hbefore token htoken
        obtain ⟨q, hq, hhinders, rfl⟩ := Classification.mem_tokensOf_iff.1 htoken
        have hnode : q ∈ g.nodes := Graph.mem_nodes_of_predecessors hbefore hq
        exact leadsTo_tokenOf hhinders fun o ho =>
          exists_row hg.typed hnode ho _ }

/-! ## An archive that waits for two of one name -/

/-- An archive that needs another one to be built and a package of a third one to be there, where
both have one file name. -/
def waitingChanges : List Build.Change :=
  [.node (Build.newZlib "/old"), .node (Build.nodeNamed .build "curl"),
    .node (Build.nodeNamed .build "zlib"), .node (Build.nodeNamed .run "zlib"), Build.between 0 1,
    Build.between 3 1, Build.between 2 3]

/-- The graph of the three archives. -/
def waitingGraph : Graph := (Build.run {} waitingChanges).graph

/-- A progress in which the one archive failed and the other one is not yet built. -/
def waitingProgress : Progress :=
  { failures := [⟨(Build.newZlib "/old").numbered 0, .text "first", .text ""⟩] }

theorem waitingGraph_sound : waitingGraph.Sound :=
  Build.sound_run (by simp [waitingChanges]) (by decide)

/-- The members of the outcomes. -/
def waitingMembers : Outcome → List Node
  | .failed => [(Build.newZlib "/old").numbered 0]
  | .unbuilt => [(Build.nodeNamed .build "curl").numbered 1,
    (Build.nodeNamed .build "zlib").numbered 2]
  | _ => []

/-- The members of each outcome. -/
theorem membersOf_waiting (o : Outcome) :
    Survey.membersOf waitingGraph waitingProgress o = waitingMembers o := by
  cases o <;> exact List.mergeSort_of_pairwise (by decide +kernel)

/-- The waiting archive names the package of the third archive, whose edge is newer, and the other
archive. -/
def waitingRows : List Row :=
  [⟨"zlib.src.rpm", .failed, ""⟩,
    ⟨"curl.src.rpm", .unbuilt, "zlib.src.rpm-UNBUILT zlib.src.rpm-FAIL"⟩,
    ⟨"zlib.src.rpm", .unbuilt, ""⟩]

/-- The rows of the classification. -/
theorem rows_waiting {c : Classification} (hc : waitingGraph.classify? waitingProgress = .ok c)
    {blockers : Blocking.Blockers}
    (hblockers : (Blocking.resolve waitingGraph c).2 = .ok blockers) :
    Summary.rows c blockers = .ok waitingRows := by
  cases (waitingGraph_sound.typed.classify?_eq_ok waitingProgress).symm.trans hc
  have hmembers := fun o =>
    (Survey.members_of waitingGraph_sound.typed waitingProgress o).trans
      (congrArg Except.ok (membersOf_waiting o))
  have hrows : ((Blocking.resolve waitingGraph
      (Survey.of waitingGraph waitingProgress).classification).2.map fun blockers =>
        Outcome.all.flatMap (rowBlock blockers waitingMembers)) = .ok waitingRows := by
    simp only [Blocking.resolve, Blocking.addOutcome, hmembers]
    decide +kernel
  rw [hblockers] at hrows
  exact rows_eq_ok_iff.2 ⟨_, hmembers, (Except.ok.inj hrows).symm⟩

/-- Both tokens of the waiting archive lead to rows, each to one of the two archives of one name. -/
theorem rows_refer_waiting :
    ∃ c blockers rs members, waitingGraph.Sound ∧
      waitingGraph.classify? waitingProgress = .ok c ∧
      (Blocking.resolve waitingGraph c).2 = .ok blockers ∧ Summary.rows c blockers = .ok rs ∧
      Refers waitingGraph c members rs ∧ rs = waitingRows := by
  obtain ⟨c, blockers, rs, members, hc, hblockers, hrows, h⟩ :=
    rows_refer waitingGraph_sound waitingProgress
  refine ⟨c, blockers, rs, members, waitingGraph_sound, hc, hblockers, hrows, h, ?_⟩
  exact Except.ok.inj (hrows.symm.trans (rows_waiting hc hblockers))

end PackageBuild.Summary
