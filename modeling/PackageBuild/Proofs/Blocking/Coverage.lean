import PackageBuild.Proofs.Blocking
import PackageBuild.Proofs.Build.Soundness

/-!
# Which predecessors a unit names

The nodes of a unit share its annotation, which is that of the first of them.  What comes before
another node of the unit is named there only when something of the same file name and outcome comes
before the first one too.

Main results:

- Theorem `exists_entries`: the annotation of a unit is that of its first node.
- Theorem `names_iff`: when a predecessor of any node of a unit is named by the unit.
-/

namespace PackageBuild

variable {g : Graph} {p : Progress} {n : Node}

/-- The unit of a hindering node has a member that failed or was never built. -/
theorem Survey.exists_member_of_hinders (h : (of g p).classification.Hinders n) :
    ∃ first ∈ membersOf g p .failed ++ membersOf g p .unbuilt, first.buildUnit = n.buildUnit := by
  rw [← List.mem_map, List.map_append, List.mem_append]
  exact h.imp mem_units_membersOf_iff.2 mem_units_membersOf_iff.2

namespace Blocking

/-- In a sound graph every node whose unit failed or was never built has an annotation, that of the
first node of its unit. -/
theorem exists_entries (hg : g.Sound) (p : Progress) :
    ∃ blockers, (resolve g (Survey.of g p).classification).2 = .ok blockers ∧
      ∀ n, (Survey.of g p).classification.Hinders n → ∃ first firsts,
        g.representative? n.buildUnit = some first ∧ g.predecessors (.node first) = .ok firsts ∧
        blockers.find? n.buildUnit =
          some (Text.joined " " ((Survey.of g p).classification.tokensOf firsts)) := by
  have hpredecessors := fun n (hn : n ∈ g.nodes) => hg.exists_predecessors hn
  choose! before hbefore using hpredecessors
  refine ⟨_, congrArg Prod.snd (resolve_survey hg.typed hbefore p), fun n hhinders => ?_⟩
  obtain ⟨first, hlisted, hsame⟩ := Survey.exists_member_of_hinders hhinders
  obtain ⟨hfirst, hnode⟩ := Survey.of_mem_hindered hlisted
  rw [← hsame]
  exact ⟨first, before first, hfirst, hbefore first hnode,
    find?_ofList_units (Survey.nodup_units_hindered g p) _ hlisted⟩

/-- In a sound graph every build node whose unit failed or was never built has the annotation of the
first node of its unit, whatever the progress is.  A hindering predecessor of the node is named
there exactly when the first node has a predecessor with the same file name and the same outcome. -/
theorem names_iff (hg : g.Sound) (p : Progress) :
    ∃ c blockers, g.classify? p = .ok c ∧ (resolve g c).2 = .ok blockers ∧
      ∀ n ∈ g.buildNodes, c.Hinders n → ∃ first firsts before,
        g.representative? n.buildUnit = some first ∧ g.predecessors (.node first) = .ok firsts ∧
        g.predecessors (.node n) = .ok before ∧
        blockers.find? n.buildUnit = some (Text.joined " " (c.tokensOf firsts)) ∧
        ∀ q ∈ before, c.Hinders q → (c.tokenOf q ∈ c.tokensOf firsts ↔
          ∃ q' ∈ firsts, q'.fileName = q.fileName ∧ c.outcomeOf? q' = c.outcomeOf? q) := by
  obtain ⟨blockers, hresolve, hentries⟩ := exists_entries hg p
  refine ⟨_, blockers, hg.typed.classify?_eq_ok p, hresolve, fun n hn hhinders => ?_⟩
  obtain ⟨first, firsts, hfirst, hfirsts, hentry⟩ := hentries n hhinders
  obtain ⟨before, hbefore⟩ := hg.exists_predecessors (List.mem_filter.1 hn).1
  exact ⟨first, firsts, before, hfirst, hfirsts, hbefore, hentry,
    fun q _ => Classification.tokenOf_mem_tokensOf_iff⟩

/-! ## A unit of two nodes -/

/-- An archive of two packages, which both wait for another archive, and the second of them for one
more. -/
def pairedChanges : List Build.Change :=
  [.node (Build.nodeNamed .build "app"), .node (Build.nodeNamed .build "app"),
    .node (Build.nodeNamed .build "curl"), .node (Build.nodeNamed .build "lib"), Build.between 2 0,
    Build.between 2 1, Build.between 3 1]

/-- The graph of the three archives. -/
def pairedGraph : Graph := (Build.run {} pairedChanges).graph

/-- A progress in which the archive that only the second package waits for failed. -/
def pairedProgress : Progress :=
  { failures := [⟨(Build.nodeNamed .build "lib").numbered 3, .text "boom", .text ""⟩] }

/-- The second package of the archive. -/
def secondNode : Node := (Build.nodeNamed .build "app").numbered 1

/-- The archive that both packages wait for. -/
def curlNode : Node := (Build.nodeNamed .build "curl").numbered 2

/-- The archive that only the second package waits for. -/
def libNode : Node := (Build.nodeNamed .build "lib").numbered 3

theorem pairedGraph_sound : pairedGraph.Sound :=
  Build.sound_run (by simp [pairedChanges]) (by decide)

theorem secondNode_mem : secondNode ∈ pairedGraph.buildNodes :=
  List.mem_of_getElem? (i := 1) rfl

/-- What both packages wait for is named. -/
theorem names_iff_paired :
    ∃ c blockers before, pairedGraph.Sound ∧ pairedGraph.classify? pairedProgress = .ok c ∧
      (resolve pairedGraph c).2 = .ok blockers ∧
      pairedGraph.predecessors (.node secondNode) = .ok before ∧ curlNode ∈ before ∧
      c.Hinders curlNode ∧ ∃ tokens, c.tokenOf curlNode ∈ tokens ∧
        blockers.find? secondNode.buildUnit = some (Text.joined " " tokens) := by
  obtain ⟨c, blockers, hc, hresolve, h⟩ := names_iff pairedGraph_sound pairedProgress
  cases (pairedGraph_sound.typed.classify?_eq_ok pairedProgress).symm.trans hc
  obtain ⟨first, firsts, before, hfirst, hfirsts, hbefore, hentry, hnames⟩ :=
    h secondNode secondNode_mem (by decide +kernel)
  cases hfirst.symm.trans (rfl : _ = some ((Build.nodeNamed .build "app").numbered 0))
  cases hfirsts.symm.trans (rfl : _ = Except.ok [curlNode])
  cases hbefore.symm.trans (rfl : _ = Except.ok [libNode, curlNode])
  have hhinders : (Survey.of pairedGraph pairedProgress).classification.Hinders curlNode := by
    decide +kernel
  have hmem : curlNode ∈ [libNode, curlNode] := List.mem_cons_of_mem _ List.mem_cons_self
  refine ⟨_, blockers, _, pairedGraph_sound, hc, hresolve, hbefore, hmem, hhinders, _, ?_, hentry⟩
  exact (hnames curlNode hmem hhinders).2 ⟨curlNode, List.mem_cons_self, rfl, rfl⟩

/-- What only the second package waits for is not named, although it failed. -/
theorem hides_predecessor :
    ∃ c blockers text, pairedGraph.Sound ∧ pairedGraph.classify? pairedProgress = .ok c ∧
      (resolve pairedGraph c).2 = .ok blockers ∧ secondNode ∈ pairedGraph.buildNodes ∧
      c.Hinders secondNode ∧
      pairedGraph.predecessors (.node secondNode) = .ok [libNode, curlNode] ∧
      c.outcomeOf? libNode = some .failed ∧ c.tokenOf libNode = "lib.src.rpm-FAIL" ∧
      blockers.find? secondNode.buildUnit = some text ∧ text = "curl.src.rpm-UNBUILT" ∧
      ¬(c.tokenOf libNode).toList <:+: text.toList := by
  obtain ⟨blockers, hresolve, hentries⟩ := exists_entries pairedGraph_sound pairedProgress
  have hhinders : (Survey.of pairedGraph pairedProgress).classification.Hinders secondNode := by
    decide +kernel
  obtain ⟨first, firsts, hfirst, hfirsts, hentry⟩ := hentries secondNode hhinders
  cases hfirst.symm.trans (rfl : _ = some ((Build.nodeNamed .build "app").numbered 0))
  cases hfirsts.symm.trans (rfl : _ = Except.ok [curlNode])
  refine ⟨_, blockers, _, pairedGraph_sound, pairedGraph_sound.typed.classify?_eq_ok _, hresolve,
    secondNode_mem, hhinders, rfl, ?_, ?_, hentry, ?_, ?_⟩
  all_goals decide +kernel

end Blocking

end PackageBuild
