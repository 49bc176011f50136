import PackageBuild.Proofs.Summary.Reading
import PackageBuild.Proofs.Summary.Severity

/-!
# What the texts of a summary hold

A reader of a summary looks at the texts of its lines and not at their levels.  It gives back what
the summary was made of, so two summaries of the same texts were made of the same: no name of a
package, a conflict or a dependency can pass for a title or a label.

Main results:

- Theorems `itemsUnder_texts` and `textsBehind_texts`: a reader looks at the texts alone.
- Theorem `sameContents_of_texts`: summaries of the same texts hold the same.
-/

namespace PackageBuild.Summary

variable {c d : Classification} {options others : Options} {ls ls' : List Line}

/-! ## Readers of texts -/

/-- The items in front depend on the texts of lines alone. -/
theorem leadingItems_texts (ls : List Line) :
    leadingItems ((ls.map Line.text).map news) = leadingItems ls := by
  induction ls with
  | nil => rfl
  | cons line rest ih =>
    have hitem : itemText? (news line.text) = itemText? line := rfl
    rw [List.map_cons, List.map_cons, leadingItems, leadingItems, hitem, ih]

/-- The items below a title depend on the texts of the lines alone. -/
theorem itemsUnder_texts (title : String) (ls : List Line) :
    itemsUnder title ((ls.map Line.text).map news) = itemsUnder title ls := by
  induction ls with
  | nil => rfl
  | cons line rest ih =>
    have htext : (news line.text).text = line.text := rfl
    rw [List.map_cons, List.map_cons, itemsUnder, itemsUnder, htext, leadingItems_texts, ih]

/-- What stands behind a label depends on the texts of the lines alone. -/
theorem textsBehind_texts (label : String) (ls : List Line) :
    textsBehind label ((ls.map Line.text).map news) = textsBehind label ls := by
  rw [textsBehind, textsBehind, List.map_map, List.filterMap_map]
  rfl

/-- The items below a title depend on the texts of lines alone. -/
theorem itemsUnder_congr (h : ls.map Line.text = ls'.map Line.text) (title : String) :
    itemsUnder title ls = itemsUnder title ls' := by
  rw [← itemsUnder_texts, h, itemsUnder_texts]

/-- The texts behind a label depend on the texts of lines alone. -/
theorem textsBehind_congr (h : ls.map Line.text = ls'.map Line.text) (label : String) :
    textsBehind label ls = textsBehind label ls' := by
  rw [← textsBehind_texts, h, textsBehind_texts]

/-! ## Summaries of the same texts -/

/-- Two classifications agree in all that their summaries show. -/
structure SameContents (c d : Classification) (options others : Options) : Prop where
  binaryConflicts : options.binaryConflicts = others.binaryConflicts
  sourceConflicts : options.sourceConflicts = others.sourceConflicts
  /-- Where there are conflicts, they count in both summaries or in none. -/
  allowRebuilds : options.binaryConflicts ≠ [] ∨ options.sourceConflicts ≠ [] →
    options.allowRebuilds = others.allowRebuilds
  counts : c.counts = d.counts
  unresolved : c.unresolved = d.unresolved
  /-- The members of an outcome have the same file names in the same order. -/
  fileNames : ∀ o, o ≠ .failed → ∃ nodes nodes', c.members o = .ok nodes ∧
    d.members o = .ok nodes' ∧ nodes.map Node.fileName = nodes'.map Node.fileName
  /-- Failed members have the same items, in the same order. -/
  failureTexts : ∃ nodes nodes' : List Node, c.members .failed = .ok nodes ∧
    d.members .failed = .ok nodes' ∧ ∃ failures failures' : List Failure,
      nodes.map (fun n => c.failures.find? n.buildUnit) = failures.map some ∧
      nodes'.map (fun n => d.failures.find? n.buildUnit) = failures'.map some ∧
      List.zipWith failureText nodes failures = List.zipWith failureText nodes' failures'

/-- There are conflicts when one of the lists has some. -/
theorem hasConflicts_iff :
    hasConflicts options = true ↔ options.binaryConflicts ≠ [] ∨ options.sourceConflicts ≠ [] := by
  rw [hasConflicts, Bool.not_eq_true', ← Bool.not_eq_true, isEmpty_and_isEmpty_iff, not_and_or]

/-- The counts of outcomes can be read off their lines. -/
theorem counts_eq_of_texts {texts texts' : Outcome → List String}
    (h : ∀ label, textsBehind label (summaryOf c options texts) =
      textsBehind label (summaryOf d others texts')) : c.counts = d.counts := by
  refine List.map_congr_left fun o _ => ?_
  have hcount := h (countLabel o)
  rw [textsBehind_countLabel, textsBehind_countLabel] at hcount
  rw [Text.naturalText_injective (List.singleton_inj.1 hcount)]

/-- Where there are conflicts, the note shows the switch. -/
theorem allowRebuilds_eq_of_texts {texts texts' : Outcome → List String}
    (h : ∀ label, textsBehind label (summaryOf c options texts) =
      textsBehind label (summaryOf d others texts'))
    (hconflicts : hasConflicts options = true) (hconflicts' : hasConflicts others = true) :
    options.allowRebuilds = others.allowRebuilds := by
  have hnote := h conflictsIgnored
  rw [textsBehind_conflictsIgnored, textsBehind_conflictsIgnored, hconflicts, hconflicts',
    Bool.true_and, Bool.true_and] at hnote
  cases hallow : options.allowRebuilds <;> cases hallow' : others.allowRebuilds
  · rfl
  · simp [hallow, hallow'] at hnote
  · simp [hallow, hallow'] at hnote
  · rfl

/-- Summaries of the same texts hold the same. -/
theorem sameContents_of_texts (h : lines c options = .ok ls) (h' : lines d others = .ok ls')
    (htexts : ls.map Line.text = ls'.map Line.text) : SameContents c d options others := by
  obtain ⟨texts, hlists, rfl⟩ := lines_eq_ok_iff.1 h
  obtain ⟨texts', hlists', rfl⟩ := lines_eq_ok_iff.1 h'
  have hitems := itemsUnder_congr htexts
  have hbehind := textsBehind_congr htexts
  have hbinary : options.binaryConflicts = others.binaryConflicts := by
    have hunder := hitems binaryTitle
    rwa [itemsUnder_binaryTitle, itemsUnder_binaryTitle] at hunder
  have hsource : options.sourceConflicts = others.sourceConflicts := by
    have hunder := hitems sourceTitle
    rwa [itemsUnder_sourceTitle, itemsUnder_sourceTitle] at hunder
  have hsame (o : Outcome) : texts o = texts' o := by
    have hunder := hitems (header o)
    rwa [itemsUnder_header, itemsUnder_header] at hunder
  exact
    { binaryConflicts := hbinary
      sourceConflicts := hsource
      allowRebuilds := by
        intro hsome
        have hsome' := hsome
        rw [hbinary, hsource] at hsome'
        exact allowRebuilds_eq_of_texts hbehind (hasConflicts_iff.2 hsome)
          (hasConflicts_iff.2 hsome')
      counts := counts_eq_of_texts hbehind
      unresolved := by
        have hunder := hitems unresolvedHeader
        rwa [itemsUnder_unresolvedHeader, itemsUnder_unresolvedHeader] at hunder
      fileNames := by
        intro o ho
        have ⟨nodes, hnodes, _⟩ := hlists o
        have ⟨nodes', hnodes', _⟩ := hlists' o
        refine ⟨nodes, nodes', hnodes, hnodes', ?_⟩
        rw [← (hlists o).eq_map_fileName hnodes ho, ← (hlists' o).eq_map_fileName hnodes' ho, hsame]
      failureTexts := by
        have ⟨nodes, hnodes, _⟩ := hlists .failed
        have ⟨nodes', hnodes', _⟩ := hlists' .failed
        obtain ⟨failures, hfailures, hfailed⟩ := (hlists .failed).exists_failures hnodes
        obtain ⟨failures', hfailures', hfailed'⟩ := (hlists' .failed).exists_failures hnodes'
        refine ⟨nodes, nodes', hnodes, hnodes', failures, failures', hfailures, hfailures', ?_⟩
        rw [← hfailed, ← hfailed', hsame] }

/-- One archive that was built, in a directory. -/
def builtIn (directory : String) : Classification where
  outcomes := .ofList [((Survey.zlibNode 0 directory).buildUnit, .built)]
  nodes := .ofList [((Survey.zlibNode 0 directory).buildUnit, Survey.zlibNode 0 directory)]
  failures := .empty

/-- The archive is the only item. -/
def builtTexts (o : Outcome) : List String := if o = .built then ["zlib.src.rpm"] else []

/-- The items of the summary of one package, wherever its archive is. -/
theorem itemTexts_builtIn {directory : String}
    (hname : (Survey.zlibNode 0 directory).fileName = "zlib.src.rpm") (o : Outcome) :
    ItemTexts (builtIn directory) o (builtTexts o) := by
  by_cases ho : o = .built
  · subst ho
    have hnode : (builtIn directory).nodes.find? (Survey.zlibNode 0 directory).buildUnit =
        some (Survey.zlibNode 0 directory) := by
      change (OrderedMap.insert .empty _ _).find? _ = _
      rw [OrderedMap.find?_insert, if_pos rfl]
    have hline : memberLine (builtIn directory) .built (Survey.zlibNode 0 directory) =
        .ok (item Log.info (Survey.zlibNode 0 directory).fileName) :=
      memberLine_of_ne_failed (by decide)
    rw [hname] at hline
    refine ⟨[Survey.zlibNode 0 directory], ?_, .cons hline .nil⟩
    refine Classification.members_eq_ok_iff.2 ⟨[Survey.zlibNode 0 directory], ?_, ?_, ?_⟩
    · exact congrArg (fun found => [found]) hnode
    · exact List.forall_mem_singleton.2 rfl
    · exact (List.mergeSort_singleton _).symm
  · rw [builtTexts, if_neg ho]
    refine ⟨[], Classification.members_eq_ok_iff.2 ⟨[], ?_, nofun, List.mergeSort_nil.symm⟩, .nil⟩
    cases o with
    | built => contradiction
    | _ => rfl

/-- A conflict that is named like the title of a section. -/
def forgedTitle : Options := { binaryConflicts := [header .built] }

/-- An archive has the same summary in another directory, and the conflict that is named like the
title of its section is a conflict all the same. -/
theorem sameContents_of_texts_moved :
    ∃ ls, lines (builtIn "/new") forgedTitle = .ok ls ∧
      lines (builtIn "/old") forgedTitle = .ok ls ∧
      itemsUnder binaryTitle ls = ["Built SRPMs:"] ∧
        itemsUnder (header .built) ls = ["zlib.src.rpm"] ∧
      SameContents (builtIn "/new") (builtIn "/old") forgedTitle forgedTitle := by
  have hnew : lines (builtIn "/new") forgedTitle =
      .ok (summaryOf (builtIn "/new") forgedTitle builtTexts) :=
    lines_eq_ok_iff.2 ⟨builtTexts, itemTexts_builtIn (by decide), rfl⟩
  have hold : lines (builtIn "/old") forgedTitle =
      .ok (summaryOf (builtIn "/new") forgedTitle builtTexts) :=
    lines_eq_ok_iff.2 ⟨builtTexts, itemTexts_builtIn (by decide), rfl⟩
  refine ⟨_, hnew, hold, ?_, ?_, sameContents_of_texts hnew hold rfl⟩
  · exact itemsUnder_binaryTitle (builtIn "/new") forgedTitle builtTexts
  · exact itemsUnder_header (builtIn "/new") forgedTitle builtTexts .built

end PackageBuild.Summary
