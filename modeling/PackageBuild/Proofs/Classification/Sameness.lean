import PackageBuild.Proofs.Classification.Likeness
import PackageBuild.Proofs.Classification.Partition
import PackageBuild.Proofs.Record.Sameness

/-!
# Equal classifications

Classifications are equal when their three maps are equal as finite maps, in whatever order the
entries were inserted.  Members are collected in this order and then sorted; when no two units have
nodes of one path, the sorting forgets the order, and equal classifications are summarized alike.

Main results:

- Theorem `rearranged_of_same`: equal maps have the same entries.
- Theorem `Rearranged.exists_members`: rearranged classifications have the same members.
- Theorem `summarized_of_same`: equal classifications have the same members, lines and rows.
-/

namespace PackageBuild.Classification

variable {c d : Classification}

/-- All nodes and failures have parts of the shapes that the schema names. -/
structure Typed (c : Classification) : Prop where
  nodes : ∀ n ∈ c.nodes.values, n.Typed
  failures : ∀ failure ∈ c.failures.values, failure.Typed

/-- Every unit with an outcome has a node, and every node is known by its own unit. -/
structure Keyed (c : Classification) : Prop where
  known : ∀ unit ∈ c.outcomes.keys, unit ∈ c.nodes.keys
  buildUnit_eq : ∀ unit n, c.nodes.find? unit = some n → n.buildUnit = unit

/-- Two classifications have the same entries in whatever order. -/
structure Rearranged (c d : Classification) : Prop where
  outcomes : c.outcomes.entries.Perm d.outcomes.entries
  nodes : c.nodes.entries.Perm d.nodes.entries
  failures : c.failures.entries.Perm d.failures.entries
  unresolved_eq : c.unresolved = d.unresolved

/-- Equal classifications have the same entries. -/
theorem rearranged_of_same (hc : c.Typed) (hd : d.Typed) (h : c.same d = true) :
    c.Rearranged d := by
  simp only [same, Bool.and_eq_true, beq_iff_eq] at h
  obtain ⟨⟨⟨houtcomes, hnodes⟩, hfailures⟩, hunresolved⟩ := h
  exact
    { outcomes := OrderedMap.perm_of_sameMap (fun _ _ _ _ heq => of_decide_eq_true heq) houtcomes
      nodes := OrderedMap.perm_of_sameMap
        (fun m hm n hn heq => (hc.nodes m hm).eq_of_same (hd.nodes n hn) heq) hnodes
      failures := OrderedMap.perm_of_sameMap
        (fun e he f hf heq => (hc.failures e he).eq_of_same (hd.failures f hf) heq) hfailures
      unresolved_eq := hunresolved }

namespace Rearranged

/-- Classifications with the same entries have the same units with an outcome, up to order. -/
theorem perm_unitsWith (h : c.Rearranged d) (o : Outcome) :
    (c.unitsWith o).Perm (d.unitsWith o) :=
  (h.outcomes.filter _).map Prod.fst

/-- Classifications with the same entries have the same counts. -/
theorem count_eq (h : c.Rearranged d) (o : Outcome) : c.count o = d.count o :=
  ((h.outcomes.map Prod.snd).filter _).length_eq

/-- Units have the same nodes in both classifications. -/
theorem nodesOf_eq_ok_iff (h : c.Rearranged d) {units : List Value.Key} {nodes : List Node} :
    c.nodesOf units = .ok nodes ↔ d.nodesOf units = .ok nodes := by
  have hfind : c.nodes.find? = d.nodes.find? := funext (OrderedMap.find?_eq_of_perm h.nodes)
  rw [Classification.nodesOf_eq_ok_iff, Classification.nodesOf_eq_ok_iff, hfind]

/-- Where every unit has its own node, the order of the entries does not show in the members. -/
theorem exists_members (h : c.Rearranged d) (hc : c.Typed) (hkeyed : c.Keyed) (o : Outcome) :
    ∃ nodes, c.members o = .ok nodes ∧ d.members o = .ok nodes := by
  have hknown : ∀ unit ∈ c.unitsWith o, unit ∈ c.nodes.keys := by
    intro unit hunit
    exact hkeyed.known unit (OrderedMap.mem_keys_iff.2 ⟨o, mem_unitsWith_iff.1 hunit⟩)
  obtain ⟨found, hfound⟩ := exists_nodesOf_iff.2 hknown
  obtain ⟨found', hfound'⟩ : ∃ found', c.nodesOf (d.unitsWith o) = .ok found' :=
    exists_nodesOf_iff.2 fun unit hunit => hknown unit ((h.perm_unitsWith o).mem_iff.2 hunit)
  have hperm : found.Perm found' := perm_of_nodesOf (h.perm_unitsWith o) hfound hfound'
  have htyped : ∀ n ∈ found, n.Typed := fun n hn => hc.nodes n (mem_values_of_mem_nodesOf hfound hn)
  have htyped' : ∀ n ∈ found', n.Typed := fun n hn => htyped n (hperm.mem_iff.2 hn)
  -- The nodes have different paths, since these are the units they are known by.
  have hpaths : (found.map Node.sourcePath).Nodup := by
    have hunits : (found.map Node.sourcePath).map Value.Key.text = c.unitsWith o := by
      rw [← map_buildUnit_of_nodesOf hkeyed.buildUnit_eq hfound, List.map_map]
      exact List.map_congr_left fun n hn => (htyped n hn).buildUnit_eq.symm
    exact List.Nodup.of_map Value.Key.text (hunits ▸ nodup_unitsWith c o)
  have hmembers : c.members o = .ok (found.mergeSort standsBefore) :=
    members_eq_ok_iff.2 ⟨found, Classification.nodesOf_eq_ok_iff.1 hfound,
      fun n hn => (htyped n hn).pathFault?_eq_none, rfl⟩
  have hmembers' : d.members o = .ok (found'.mergeSort standsBefore) :=
    members_eq_ok_iff.2 ⟨found', Classification.nodesOf_eq_ok_iff.1 (h.nodesOf_eq_ok_iff.1 hfound'),
      fun n hn => (htyped' n hn).pathFault?_eq_none, rfl⟩
  refine ⟨_, hmembers, ?_⟩
  rw [hmembers', mergeSort_eq_of_perm hperm hpaths]

/-- Rearranged classifications show the same. -/
theorem showsAlike (h : c.Rearranged d) (hc : c.Typed) (hkeyed : c.Keyed) : c.ShowsAlike d where
  members_eq := by
    intro o
    obtain ⟨nodes, hmembers, hmembers'⟩ := h.exists_members hc hkeyed o
    rw [hmembers, hmembers']
  count_eq := h.count_eq
  unresolved_eq := h.unresolved_eq
  find?_failures := OrderedMap.find?_eq_of_perm h.failures

end Rearranged

/-- Equal classifications have the same members, lines and rows, in whatever order their entries and
those of the blockers were inserted. -/
theorem summarized_of_same (hc : c.Typed) (hd : d.Typed) (hkeyed : c.Keyed) (h : c.same d = true) :
    (∀ o, ∃ nodes, c.members o = .ok nodes ∧ d.members o = .ok nodes) ∧
      (∀ options, Summary.lines c options = Summary.lines d options) ∧
        ∀ blockers others : Blocking.Blockers,
          (∀ unit, blockers.find? unit = others.find? unit) →
            Summary.rows c blockers = Summary.rows d others := by
  have hrearranged := rearranged_of_same hc hd h
  have halike := hrearranged.showsAlike hc hkeyed
  refine ⟨hrearranged.exists_members hc hkeyed, Summary.lines_congr halike, ?_⟩
  intro blockers others hblockers
  exact Summary.rows_congr halike hblockers

/-! ## Archives that were classified in two orders -/

/-- The entry of an archive in a directory. -/
def entryIn {α : Type} (value : Node → α) (directory : String) : Value.Key × α :=
  ((Survey.zlibNode 0 directory).buildUnit, value (Survey.zlibNode 0 directory))

/-- Archives of one name that failed, in the order of their directories. -/
def failedIn (directories : List String) : Classification where
  outcomes := .ofList (directories.map (entryIn fun _ => .failed))
  nodes := .ofList (directories.map (entryIn id))
  failures := .ofList (directories.map (entryIn fun n => ⟨n, .text "first", .text ""⟩))

/-- What blocks the archives, in the order of their directories. -/
def blockersIn (directories : List String) : Blocking.Blockers :=
  .ofList (directories.map (entryIn Node.sourcePath))

/-- The classification has parts of their shape. -/
theorem typed_failedIn {directories : List String}
    (hnodes : (failedIn directories).nodes.values = directories.map (Survey.zlibNode 0))
    (hfailures : (failedIn directories).failures.values =
      directories.map fun directory => ⟨Survey.zlibNode 0 directory, .text "first", .text ""⟩) :
    (failedIn directories).Typed where
  nodes := by
    rw [hnodes, List.forall_mem_map]
    exact fun directory _ => Survey.zlibNode_typed 0 directory
  failures := by
    rw [hfailures, List.forall_mem_map]
    exact fun directory _ =>
      Failure.typed_iff.2 ⟨Survey.zlibNode_typed 0 directory, ⟨_, rfl⟩, ⟨_, rfl⟩⟩

/-- Two archives of one name have the same lines and rows in either order. -/
theorem summarized_of_same_turned :
    (failedIn ["/new", "/old"]).outcomes.keys =
        [.text "/new/zlib.src.rpm", .text "/old/zlib.src.rpm"] ∧
      (failedIn ["/old", "/new"]).outcomes.keys =
        [.text "/old/zlib.src.rpm", .text "/new/zlib.src.rpm"] ∧
      Summary.lines (failedIn ["/new", "/old"]) {} = Summary.lines (failedIn ["/old", "/new"]) {} ∧
      Summary.rows (failedIn ["/new", "/old"]) (blockersIn ["/new", "/old"]) =
        Summary.rows (failedIn ["/old", "/new"]) (blockersIn ["/old", "/new"]) := by
  have hkeyed : (failedIn ["/new", "/old"]).Keyed :=
    { known := fun unit hunit => hunit
      buildUnit_eq := by
        intro unit n hn
        have hentry : (unit, n) ∈ ["/new", "/old"].map (entryIn id) :=
          OrderedMap.mem_entries_iff.2 hn
        obtain ⟨directory, -, hdirectory⟩ := List.mem_map.1 hentry
        cases hdirectory
        rfl }
  obtain ⟨-, hlines, hrows⟩ := summarized_of_same (typed_failedIn rfl rfl) (typed_failedIn rfl rfl)
    hkeyed (by decide : (failedIn ["/new", "/old"]).same (failedIn ["/old", "/new"]) = true)
  refine ⟨rfl, rfl, hlines {}, hrows _ _ ?_⟩
  exact OrderedMap.find?_eq_of_perm (.swap _ _ _)

end PackageBuild.Classification
