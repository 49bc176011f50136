import Mathlib.Tactic.Choose
import PackageBuild.Proofs.Attempt
import PackageBuild.Proofs.OrderedMap
import PackageBuild.Summary.Line.Reader

/-!
# What a summary is made of

Every member of an outcome has an item, and every outcome with members has a list of items.  A
summary is had when every member has an item, and then only these items, the counts, the conflicts
and the unresolved dependencies make it up.

Main results:

- Theorem `lines_eq_ok_iff`: a summary is had when every member has an item, and then it is made of
  one list of items for each outcome.
- Theorem `exists_lines_iff`: when a summary is had.
- Theorems `ItemTexts.eq_map_fileName` and `ItemTexts.exists_failures`: the items of the members.
-/

namespace PackageBuild.Summary

variable {c : Classification} {o : Outcome} {n : Node}

/-! ## The item of a member -/

/-- Items of different texts are different. -/
theorem item_injective (level : Int) : Function.Injective (item level) := by
  intro s t h
  have htext : itemText? (item level s) = itemText? (item level t) := congrArg itemText? h
  rw [itemText?_item, itemText?_item] at htext
  exact Option.some.inj htext

/-- The item of a member that did not fail is its file name. -/
theorem memberLine_of_ne_failed (h : o ≠ .failed) :
    memberLine c o n = .ok (item Log.info n.fileName) := by
  cases o with
  | failed => contradiction
  | _ => rfl

/-- The item of a failed member shows its failure. -/
theorem memberLine_failed {failure : Failure}
    (h : c.failures.find? n.buildUnit = some failure) :
    memberLine c .failed n = .ok (item Log.info (failureText n failure)) := by
  rw [memberLine, h]

/-- A failed member with an item has a failure. -/
theorem exists_failure_of_memberLine {text : String}
    (h : memberLine c .failed n = .ok (item Log.info text)) :
    ∃ failure, c.failures.find? n.buildUnit = some failure ∧ text = failureText n failure := by
  rw [memberLine] at h
  split at h
  · contradiction
  · next failure hfailure =>
    exact ⟨failure, hfailure, (item_injective _ (Except.ok.inj h)).symm⟩

/-! ## The parts of a summary -/

/-- The lines at the top of a summary: the banner and the counts. -/
def topLines (c : Classification) : List Line := banner.map news ++ countLines c

/-- The list of items of an outcome; an outcome without items has no list. -/
def listed (texts : Outcome → List String) (o : Outcome) : List Line :=
  conflictSection Log.info (header o) (texts o)

/-- A summary with lists of items for the outcomes. -/
def summaryOf (c : Classification) (options : Options) (texts : Outcome → List String) :
    List Line :=
  banner.map news ++ countLines c ++ conflictLines options ++ Outcome.all.flatMap (listed texts) ++
    unresolvedLines c

/-- The texts of the items that list the members of an outcome. -/
def ItemTexts (c : Classification) (o : Outcome) (texts : List String) : Prop :=
  ∃ nodes, c.members o = .ok nodes ∧
    List.Forall₂ (fun n text => memberLine c o n = .ok (item Log.info text)) nodes texts

/-- The line of a unit is an item. -/
theorem exists_item_of_memberLine {line : Line} (h : memberLine c o n = .ok line) :
    ∃ text, line = item Log.info text := by
  unfold memberLine at h
  split at h
  · split at h
    · contradiction
    · cases h
      exact ⟨_, rfl⟩
  · cases h
    exact ⟨_, rfl⟩

/-- The lines of members are items, one for each of them. -/
theorem exists_texts_of_mapM {nodes : List Node} {lines : List Line}
    (h : nodes.mapM (memberLine c o) = .ok lines) :
    ∃ texts, lines = texts.map (item Log.info) ∧
      List.Forall₂ (fun n text => memberLine c o n = .ok (item Log.info text)) nodes texts := by
  have hlines := Attempt.mapM_eq_ok_iff.1 h
  clear h
  induction hlines with
  | nil => exact ⟨[], rfl, .nil⟩
  | cons hfirst _ ih =>
    obtain ⟨texts, rfl, hrest⟩ := ih
    obtain ⟨text, rfl⟩ := exists_item_of_memberLine hfirst
    exact ⟨text :: texts, rfl, .cons hfirst hrest⟩

/-- The list of an outcome is had when each of its members has an item. -/
theorem categoryLines_eq_ok_iff {lines : List Line} :
    categoryLines c o = .ok lines ↔
      ∃ texts, ItemTexts c o texts ∧ lines = conflictSection Log.info (header o) texts := by
  unfold categoryLines
  rw [Attempt.bind_eq_ok_iff]
  constructor
  · rintro ⟨nodes, hnodes, hlines⟩
    cases nodes with
    | nil =>
      cases hlines
      exact ⟨[], ⟨[], hnodes, .nil⟩, rfl⟩
    | cons n rest =>
      obtain ⟨items, hitems, hlines⟩ := Attempt.bind_eq_ok_iff.1 hlines
      obtain ⟨texts, rfl, htexts⟩ := exists_texts_of_mapM hitems
      cases htexts with
      | cons hfirst hrest =>
        cases hlines
        exact ⟨_, ⟨_, hnodes, .cons hfirst hrest⟩, rfl⟩
  · rintro ⟨texts, ⟨nodes, hnodes, htexts⟩, rfl⟩
    refine ⟨nodes, hnodes, ?_⟩
    have hitems : nodes.mapM (memberLine c o) = .ok (texts.map (item Log.info)) := by
      rw [Attempt.mapM_eq_ok_iff, List.forall₂_map_right_iff]
      exact htexts
    cases htexts with
    | nil => rfl
    | cons hfirst hrest =>
      rw [hitems]
      rfl

/-- A summary is had when every member of every outcome has an item. -/
theorem lines_eq_ok_iff {options : Options} {ls : List Line} :
    lines c options = .ok ls ↔
      ∃ texts : Outcome → List String, (∀ o, ItemTexts c o (texts o)) ∧
        ls = summaryOf c options texts := by
  unfold lines
  rw [Attempt.map_eq_ok_iff]
  constructor
  · rintro ⟨sections, hsections, rfl⟩
    have hsection (o : Outcome) : ∃ texts, ItemTexts c o texts ∧
        categoryLines c o = .ok (conflictSection Log.info (header o) texts) := by
      obtain ⟨ls, hls⟩ := Attempt.exists_of_mapM_eq_ok hsections (Outcome.mem_all o)
      obtain ⟨texts, htexts, rfl⟩ := categoryLines_eq_ok_iff.1 hls
      exact ⟨texts, htexts, hls⟩
    choose texts htells hlines using hsection
    refine ⟨texts, htells, ?_⟩
    rw [Attempt.mapM_eq_ok_map fun o _ => hlines o] at hsections
    cases hsections
    rfl
  · rintro ⟨texts, htells, rfl⟩
    refine ⟨_, Attempt.mapM_eq_ok_map fun o _ => ?_, rfl⟩
    exact categoryLines_eq_ok_iff.2 ⟨texts o, htells o, rfl⟩

/-! ## The texts of the items -/

/-- Every member has one item. -/
theorem ItemTexts.length_eq {texts : List String} {nodes : List Node} (h : ItemTexts c o texts)
    (hnodes : c.members o = .ok nodes) : texts.length = nodes.length := by
  obtain ⟨_, hmembers, htexts⟩ := h
  cases hnodes.symm.trans hmembers
  exact htexts.length_eq.symm

/-- The items of members that did not fail are their file names. -/
theorem ItemTexts.eq_map_fileName {texts : List String} {nodes : List Node}
    (h : ItemTexts c o texts)
    (hnodes : c.members o = .ok nodes) (ho : o ≠ .failed) : texts = nodes.map Node.fileName := by
  obtain ⟨_, hmembers, htexts⟩ := h
  cases hnodes.symm.trans hmembers
  have hequal : List.Forall₂ (fun n text => n.fileName = text) nodes texts := by
    refine htexts.imp fun n text hline => ?_
    rw [memberLine_of_ne_failed ho] at hline
    exact item_injective _ (Except.ok.inj hline)
  rw [← List.forall₂_eq_eq_eq, List.forall₂_map_right_iff]
  exact hequal.flip.imp fun _ _ heq => heq.symm

/-- The items of failed members show their failures. -/
theorem ItemTexts.exists_failures {texts : List String} {nodes : List Node}
    (h : ItemTexts c .failed texts) (hnodes : c.members .failed = .ok nodes) :
    ∃ failures : List Failure,
      nodes.map (fun n => c.failures.find? n.buildUnit) = failures.map some ∧
        texts = List.zipWith failureText nodes failures := by
  obtain ⟨_, hmembers, htexts⟩ := h
  cases hnodes.symm.trans hmembers
  clear hnodes hmembers
  induction htexts with
  | nil => exact ⟨[], rfl, rfl⟩
  | cons hline _ ih =>
    obtain ⟨failure, hfailure, rfl⟩ := exists_failure_of_memberLine hline
    obtain ⟨failures, hfailures, rfl⟩ := ih
    exact ⟨failure :: failures, by rw [List.map_cons, hfailure, hfailures, List.map_cons], rfl⟩

/-! ## When a summary is had -/

/-- The members of an outcome have items when they are had and, if they failed, the classification
knows a failure of each. -/
theorem exists_itemTexts_iff : (∃ texts, ItemTexts c o texts) ↔
    ∃ nodes, c.members o = .ok nodes ∧
      (o = .failed → ∀ n ∈ nodes, n.buildUnit ∈ c.failures.keys) := by
  constructor
  · rintro ⟨texts, hitems⟩
    have ⟨nodes, hnodes, _⟩ := hitems
    refine ⟨nodes, hnodes, ?_⟩
    rintro rfl n hn
    obtain ⟨failures, hfailures, -⟩ := hitems.exists_failures hnodes
    have hmem : c.failures.find? n.buildUnit ∈ failures.map some :=
      hfailures ▸ List.mem_map_of_mem hn
    obtain ⟨failure, -, hfailure⟩ := List.mem_map.1 hmem
    exact OrderedMap.mem_keys_iff.2 ⟨failure, hfailure.symm⟩
  · rintro ⟨nodes, hnodes, hfailures⟩
    have hline : ∀ n ∈ nodes, ∃ text, memberLine c o n = .ok (item Log.info text) := by
      intro n hn
      by_cases ho : o = .failed
      · obtain ⟨failure, hfailure⟩ := OrderedMap.mem_keys_iff.1 (hfailures ho n hn)
        subst ho
        exact ⟨_, memberLine_failed hfailure⟩
      · exact ⟨_, memberLine_of_ne_failed ho⟩
    choose! text htext using hline
    refine ⟨nodes.map text, nodes, hnodes, ?_⟩
    rw [List.forall₂_map_right_iff, List.forall₂_same]
    exact htext

/-- A summary is had when the members of every outcome are and the classification knows a failure of
each failed one. -/
theorem exists_lines_iff {options : Options} : (∃ ls, lines c options = .ok ls) ↔
    ∀ o, ∃ nodes, c.members o = .ok nodes ∧
      (o = .failed → ∀ n ∈ nodes, n.buildUnit ∈ c.failures.keys) := by
  simp only [← exists_itemTexts_iff]
  constructor
  · rintro ⟨ls, hls⟩ o
    obtain ⟨texts, htexts, -⟩ := lines_eq_ok_iff.1 hls
    exact ⟨texts o, htexts o⟩
  · intro hitems
    choose texts htexts using hitems
    exact ⟨_, lines_eq_ok_iff.2 ⟨texts, htexts, rfl⟩⟩

end PackageBuild.Summary
