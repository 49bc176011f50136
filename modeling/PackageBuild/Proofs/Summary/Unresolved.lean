import PackageBuild.Proofs.Build.Representation
import PackageBuild.Proofs.Summary.Reading
import PackageBuild.Proofs.Summary.Survey
import PackageBuild.Proofs.Text.Order

/-!
# Unresolved dependencies

A package that is needed at run time and was not found is listed by its display text.  Different
packages may have one text, which is listed once.  The list depends on the nodes alone: neither on
the progress nor on the numbers of the nodes, and so not on the order in which they were added.

Main results:

- Theorem `Survey.mem_unresolved_iff`: which texts are listed.
- Theorem `Survey.unresolved_congr`: the numbers of the nodes do not matter.
- Theorem `Build.map_unnumbered_run`: without their numbers the nodes after a run are those it adds.
- Theorem `Summary.unresolved_listed`: unresolved dependencies are listed in strictly ascending
  order, and the summary lists them in this order below their number.
-/

namespace PackageBuild

/-- A node as it was before it got its number. -/
def Node.unnumbered (n : Node) : Graph.NewNode :=
  ⟨n.kind, n.state, n.package, n.source, n.binaryPath, n.architecture⟩

/-- The text of a package of its shape is the one in messages. -/
theorem Node.Typed.packageText_eq {n : Node} (h : n.Typed) :
    n.packageText = .ok n.package.messageText := by
  have hfault : n.packageFault? = none := h.packageFault?_eq_none
  unfold packageFault? at hfault
  unfold Value.messageText
  unfold packageText at hfault ⊢
  split at hfault
  · next s hs => rw [hs]
  · contradiction

namespace Survey

variable {g g' : Graph} {p : Progress}

/-- The unresolved dependencies of a classification are those of the graph. -/
theorem unresolved_of (g : Graph) (p : Progress) :
    (of g p).classification.unresolved = unresolved g := by
  rw [of_eq]
  rfl

/-- The texts of the packages that are needed at run time and were not found. -/
theorem mem_unresolved_iff {s : String} :
    s ∈ unresolved g ↔ ∃ new ∈ g.nodes.map Node.unnumbered,
      new.kind = .run ∧ new.state = .unresolved ∧ new.package.messageText = s := by
  simp only [unresolved, Text.mem_distinctTexts, Graph.runNodes, List.mem_map, List.mem_filter,
    Node.isRun, Node.isUnresolved, decide_eq_true_eq]
  constructor
  · rintro ⟨n, ⟨⟨hn, hkind⟩, hstate⟩, hsaid⟩
    exact ⟨n.unnumbered, ⟨n, hn, rfl⟩, hkind, hstate, hsaid⟩
  · rintro ⟨_, ⟨n, hn, rfl⟩, hkind, hstate, hsaid⟩
    exact ⟨n, ⟨⟨hn, hkind⟩, hstate⟩, hsaid⟩

/-- The numbers of the nodes do not matter, nor the order in which the nodes were added. -/
theorem unresolved_congr
    (hnodes : (g.nodes.map Node.unnumbered).Perm (g'.nodes.map Node.unnumbered)) :
    unresolved g = unresolved g' := by
  refine Text.eq_of_pairwise_lt (Text.pairwise_distinctTexts _) (Text.pairwise_distinctTexts _)
    fun s => ?_
  exact mem_unresolved_iff.trans (by simp only [mem_unresolved_iff, hnodes.mem_iff])

end Survey

/-- Without their numbers the nodes after a run are those before it and those that it adds. -/
theorem Build.map_unnumbered_run (b : Build) (cs : List Change) :
    (b.run cs).graph.nodes.map Node.unnumbered =
      b.graph.nodes.map Node.unnumbered ++ cs.filterMap Change.added? := by
  have hadded (start : Nat) (added : List Graph.NewNode) :
      (added.zipIdx start).map (Node.unnumbered ∘ fun new => new.1.numbered new.2) = added :=
    List.zipIdx_map_fst start added
  rw [nodes_run_eq, List.map_append, List.map_map, hadded]

namespace Summary

/-- A classification lists the unresolved dependencies of a graph, and so does its summary. -/
structure ListsUnresolved (g : Graph) (c : Classification) : Prop where
  /-- Every text is listed once, in the order of code points. -/
  ascending : c.unresolved.Pairwise (· < ·)
  /-- A text is listed when it is that of a package which is needed at run time and was not found.
  -/
  mem_iff (s : String) : s ∈ c.unresolved ↔
    ∃ n ∈ g.nodes, n.kind = .run ∧ n.state = .unresolved ∧ n.packageText = .ok s
  /-- The summary counts them and lists them below their title. -/
  listed (options : Options) : ∃ ls, lines c options = .ok ls ∧
    textsBehind unresolvedLabel ls = [Text.naturalText c.unresolved.length] ∧
    itemsUnder unresolvedHeader ls = c.unresolved

/-- Unresolved dependencies are listed once each, in ascending order, for every progress; another
graph of the same nodes, whatever their numbers are, has the same ones for every other progress. -/
theorem unresolved_listed {g g' : Graph} (hg : g.Typed) (hg' : g'.Typed)
    (hnodes : (g.nodes.map Node.unnumbered).Perm (g'.nodes.map Node.unnumbered)) (p p' : Progress) :
    ∃ c c', g.classify? p = .ok c ∧ g'.classify? p' = .ok c' ∧ ListsUnresolved g c ∧
      c'.unresolved = c.unresolved := by
  refine ⟨_, _, hg.classify?_eq_ok p, hg'.classify?_eq_ok p', ⟨?_, fun s => ?_, fun options => ?_⟩,
    ?_⟩
  · rw [Survey.unresolved_of]
    exact Text.pairwise_distinctTexts _
  · rw [Survey.unresolved_of, Survey.mem_unresolved_iff]
    simp only [List.mem_map, exists_exists_and_eq_and]
    refine exists_congr fun n => and_congr_right fun hn => and_congr_right fun _ =>
      and_congr_right fun _ => ?_
    rw [(hg n hn).packageText_eq, Except.ok.injEq]
    rfl
  · obtain ⟨ls, hls⟩ := exists_lines hg p options
    obtain ⟨texts, -, rfl⟩ := lines_eq_ok_iff.1 hls
    exact ⟨_, hls, textsBehind_unresolvedLabel _ _ _, itemsUnder_unresolvedHeader _ _ _⟩
  · rw [Survey.unresolved_of, Survey.unresolved_of, Survey.unresolved_congr hnodes]

/-! ## Packages that meet in one text -/

/-- A node for a package with a first bound. -/
def bounded (kind : Kind) (name condition version : String) : Graph.NewNode where
  kind := kind
  state := .unresolved
  package := .record .package [.text name, .text version, .text condition, .text "", .text ""]
  source := .text "/srpms/app.src.rpm"

/-- Three requirements of two texts, and a package to build that was not found either. -/
def missingChanges : List Build.Change :=
  [.node (bounded .run "zlib" ">=" "1.3"), .node (bounded .run "zlib" "" "1.2"),
    .node (bounded .build "curl" "" ""), .node (bounded .run "zlib = 1.2" "" "")]

theorem typed_missing {cs : List Build.Change} (hcs : ∀ c ∈ cs, c ∈ missingChanges) :
    (Build.run {} cs).graph.Typed := by
  intro n hn
  obtain ⟨added, hnodes, hadded⟩ := Build.nodes_run {} cs
  rw [hnodes, List.nil_append] at hn
  obtain ⟨new, id, hnew, rfl⟩ := hadded n hn
  have hmem := hcs _ hnew
  simp only [missingChanges, List.mem_cons, List.not_mem_nil, or_false, Build.Change.node.injEq]
    at hmem
  have hpackage : Value.HasShape (.record .package) new.package := by
    rcases hmem with rfl | rfl | rfl | rfl <;>
      exact Value.hasShape_package_iff.2 ⟨_, _, _, _, _, rfl⟩
  have hparts : new.source = .text "/srpms/app.src.rpm" ∧ new.binaryPath = .text "" ∧
      new.architecture = .text "" := by
    rcases hmem with rfl | rfl | rfl | rfl <;> exact ⟨rfl, rfl, rfl⟩
  exact Node.typed_iff.2
    ⟨⟨id, rfl⟩, hpackage, ⟨_, hparts.1⟩, ⟨_, hparts.2.1⟩, ⟨_, hparts.2.2⟩⟩

/-- Two texts are listed for four nodes, in whatever order these were added and whatever was done
since. -/
theorem unresolved_listed_meeting :
    ∃ c c', (Build.run {} missingChanges).graph.classify? {} = .ok c ∧
      (Build.run {} missingChanges.reverse).graph.classify? Survey.zlibProgress = .ok c' ∧
      ListsUnresolved (Build.run {} missingChanges).graph c ∧
      c.unresolved = ["zlib = 1.2", "zlib >= 1.3"] ∧ c'.unresolved = c.unresolved := by
  have hnodes : ((Build.run {} missingChanges).graph.nodes.map Node.unnumbered).Perm
      ((Build.run {} missingChanges.reverse).graph.nodes.map Node.unnumbered) := by
    rw [Build.map_unnumbered_run, Build.map_unnumbered_run, List.filterMap_reverse]
    exact (List.reverse_perm _).symm
  obtain ⟨c, c', hc, hc', hitems, hsame⟩ := unresolved_listed (typed_missing fun _ h => h)
    (typed_missing fun _ h => List.mem_reverse.1 h) hnodes {} Survey.zlibProgress
  refine ⟨c, c', hc, hc', hitems, ?_, hsame⟩
  have hclassification := (Graph.classify?_eq_ok_iff.1 hc).2.2
  have htexts : Survey.unresolved (Build.run {} missingChanges).graph =
      Text.distinctTexts ["zlib >= 1.3", "zlib = 1.2", "zlib = 1.2"] := rfl
  rw [← hclassification, Survey.unresolved_of, htexts]
  refine Text.eq_of_pairwise_lt (Text.pairwise_distinctTexts _) (by decide) fun s => ?_
  simp [or_comm]

end Summary

end PackageBuild
