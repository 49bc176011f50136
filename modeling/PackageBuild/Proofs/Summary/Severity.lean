import PackageBuild.Proofs.Summary.Survey

/-!
# How severe conflicts are

Conflicts with the toolchain are errors, unless it may be built again.  The switch for this changes
no other section: it takes the section about conflicts down to plain news and puts one note in front
of it.

Main results:

- Theorem `summaryOf_eq`: a summary is its top, the section about conflicts and the rest, and only
  the section depends on the options.
- Theorem `conflictLines_allowed`: what the switch does to the section about conflicts.
- Theorem `level_of_mem_lines`: a line of a summary is plain news or an error.
- Theorem `lines_allowed`: what the switch does to a summary, and which of its lines are errors
  without it.
-/

namespace PackageBuild.Summary

variable {c : Classification} {options : Options} {texts : Outcome → List String} {line : Line}

/-! ## Lines as plain news -/

/-- A line at the level of plain news. -/
def Line.asNews (line : Line) : Line := { line with level := Log.info }

/-- Lines that are plain news stay as they are. -/
theorem map_asNews_of_forall {ls : List Line} (h : ∀ line ∈ ls, line.level = Log.info) :
    ls.map Line.asNews = ls := by
  have hline : ∀ line ∈ ls, line.asNews = id line := by
    intro line hline
    rw [Line.asNews, ← h line hline]
    rfl
  rw [List.map_congr_left hline, List.map_id]

/-- Among lines that are plain news there is no error. -/
theorem filter_error_eq_nil {ls : List Line} (h : ∀ line ∈ ls, line.level = Log.info) :
    ls.filter (fun line => line.level = Log.error) = [] := by
  refine List.filter_eq_nil_iff.2 fun line hline => ?_
  rw [h line hline]
  decide

/-! ## The parts of a summary -/

/-- The sections behind the one about conflicts. -/
def laterLines (c : Classification) (texts : Outcome → List String) : List Line :=
  Outcome.all.flatMap (listed texts) ++ unresolvedLines c

/-- A summary in three parts: what is above the conflicts, the conflicts, and the lists. -/
theorem summaryOf_eq (c : Classification) (options : Options) (texts : Outcome → List String) :
    summaryOf c options texts = topLines c ++ (conflictLines options ++ laterLines c texts) := by
  simp only [summaryOf, topLines, laterLines, List.append_assoc]

/-- Nine lines stand above the conflicts. -/
theorem length_topLines (c : Classification) : (topLines c).length = 9 := by
  simp [topLines, banner, countLines, Classification.counts, Outcome.all]

/-- The lines above the conflicts are news. -/
theorem level_of_mem_topLines (h : line ∈ topLines c) : line.level = Log.info := by
  rcases List.mem_append.1 h with h | h
  · obtain ⟨text, -, rfl⟩ := List.mem_map.1 h
    rfl
  · rcases List.mem_append.1 h with h | h
    · obtain ⟨count, -, rfl⟩ := List.mem_map.1 h
      rfl
    · rw [List.mem_singleton.1 h]
      rfl

/-- The lines of a list of conflicts have the level that it is given. -/
theorem level_of_mem_conflictSection {level : Int} {title : String} {names : List String}
    (h : line ∈ conflictSection level title names) : line.level = level := by
  unfold conflictSection at h
  split at h
  · contradiction
  · rcases List.mem_cons.1 h with rfl | h
    · rfl
    · obtain ⟨name, -, rfl⟩ := List.mem_map.1 h
      rfl

/-- The lines below the conflicts are news. -/
theorem level_of_mem_laterLines (h : line ∈ laterLines c texts) : line.level = Log.info := by
  rcases List.mem_append.1 h with h | h
  · obtain ⟨o, -, h⟩ := List.mem_flatMap.1 h
    exact level_of_mem_conflictSection h
  · have hsection : line ∈ conflictSection Log.info unresolvedHeader c.unresolved := h
    exact level_of_mem_conflictSection hsection

/-! ## The section about conflicts -/

/-- A list of conflicts that are errors, below its title. -/
def errorList (title : String) (names : List String) : List Line :=
  if names = [] then [] else ⟨Log.error, title⟩ :: names.map fun name => ⟨Log.error, "--> " ++ name⟩

/-- The section about conflicts that are errors: how many there are, and both lists. -/
def conflictErrors (binary source : List String) : List Line :=
  if binary = [] ∧ source = [] then []
  else
    [⟨Log.error, "Number of toolchain RPM conflicts: " ++ Text.naturalText binary.length⟩,
      ⟨Log.error, "Number of toolchain SRPM conflicts: " ++ Text.naturalText source.length⟩] ++
    errorList "RPM conflicts with toolchain: " binary ++
    errorList "SRPM conflicts with toolchain: " source

/-- The note that conflicts do not count; it stands only where there are any. -/
def ignoredNote (binary source : List String) : List Line :=
  if binary = [] ∧ source = [] then [] else [⟨Log.info, conflictsIgnored⟩]

/-- A list of conflicts as errors. -/
theorem conflictSection_error (title : String) (names : List String) :
    conflictSection Log.error title names = errorList title names := by
  cases names <;> rfl

/-- A list of conflicts turned into news is one that was made as news. -/
theorem map_asNews_conflictSection (level : Int) (title : String) (names : List String) :
    (conflictSection level title names).map Line.asNews = conflictSection Log.info title names := by
  unfold conflictSection
  split
  · rfl
  · rw [List.map_cons, List.map_map]
    rfl

/-- There are no conflicts exactly when both lists are empty. -/
theorem isEmpty_and_isEmpty_iff (binary source : List String) :
    (binary.isEmpty && source.isEmpty) = true ↔ binary = [] ∧ source = [] := by
  rw [Bool.and_eq_true, List.isEmpty_iff, List.isEmpty_iff]

/-- Without the switch the section consists of errors. -/
theorem conflictLines_strict (binary source : List String) :
    conflictLines ⟨binary, source, false⟩ = conflictErrors binary source := by
  unfold conflictLines conflictErrors
  simp only [isEmpty_and_isEmpty_iff, ← conflictSection_error]
  split <;> rfl

/-- The switch takes the section down to plain news and puts the note in front of it. -/
theorem conflictLines_allowed (binary source : List String) :
    conflictLines ⟨binary, source, true⟩ =
      ignoredNote binary source ++ (conflictErrors binary source).map Line.asNews := by
  rw [← conflictLines_strict]
  unfold conflictLines ignoredNote
  simp only [isEmpty_and_isEmpty_iff]
  split
  · rfl
  · simp only [List.map_append, map_asNews_conflictSection, List.append_assoc]
    rfl

/-- The lines about conflicts that count are errors. -/
theorem level_of_mem_conflictErrors {binary source : List String}
    (h : line ∈ conflictErrors binary source) : line.level = Log.error := by
  unfold conflictErrors at h
  simp only [← conflictSection_error] at h
  split at h
  · contradiction
  · simp only [List.mem_append, List.mem_cons, List.not_mem_nil, or_false] at h
    rcases h with ((rfl | rfl) | h) | h
    · rfl
    · rfl
    · exact level_of_mem_conflictSection h
    · exact level_of_mem_conflictSection h

/-- The lines about conflicts are news or errors. -/
theorem level_of_mem_conflictLines (h : line ∈ conflictLines options) :
    line.level = Log.info ∨ line.level = Log.error := by
  obtain ⟨binary, source, allow⟩ := options
  cases allow with
  | false =>
    rw [conflictLines_strict] at h
    exact .inr (level_of_mem_conflictErrors h)
  | true =>
    rw [conflictLines_allowed] at h
    rcases List.mem_append.1 h with h | h
    · unfold ignoredNote at h
      split at h
      · contradiction
      · rw [List.mem_singleton.1 h]
        exact .inl rfl
    · obtain ⟨other, -, rfl⟩ := List.mem_map.1 h
      exact .inl rfl

/-! ## Whole summaries -/

/-- A line of a summary is plain news or an error. -/
theorem level_of_mem_lines {ls : List Line} (h : lines c options = .ok ls) (hline : line ∈ ls) :
    line.level = Log.info ∨ line.level = Log.error := by
  obtain ⟨texts, -, rfl⟩ := lines_eq_ok_iff.1 h
  rw [summaryOf_eq] at hline
  rcases List.mem_append.1 hline with hline | hline
  · exact .inl (level_of_mem_topLines hline)
  · rcases List.mem_append.1 hline with hline | hline
    · exact level_of_mem_conflictLines hline
    · exact .inl (level_of_mem_laterLines hline)

/-- Lines as they are when conflicts do not count: behind the top stands the note, and every line is
plain news. -/
def allowedLines (binary source : List String) (strict : List Line) : List Line :=
  (strict.take 9).map Line.asNews ++ ignoredNote binary source ++ (strict.drop 9).map Line.asNews

/-- What lines are like in which conflicts are errors. -/
structure Strict (c : Classification) (binary source : List String) (ls : List Line) : Prop where
  /-- The first nine lines are the banner and the counts. -/
  top : ls.take 9 = topLines c
  /-- The section about conflicts follows. -/
  conflicts : conflictErrors binary source <+: ls.drop 9
  /-- The lines that are errors are those of this section. -/
  errors : ls.filter (fun line => line.level = Log.error) = conflictErrors binary source
  /-- All others are plain news. -/
  others : ∀ line ∈ ls, line.level ≠ Log.error → line.level = Log.info

/-- A summary begins with the nine lines above the conflicts. -/
theorem take_summaryOf (c : Classification) (options : Options) (texts : Outcome → List String) :
    (summaryOf c options texts).take 9 = topLines c := by
  rw [summaryOf_eq, List.take_left' (length_topLines c)]

/-- Behind its first nine lines a summary has the conflicts and the lists. -/
theorem drop_summaryOf (c : Classification) (options : Options) (texts : Outcome → List String) :
    (summaryOf c options texts).drop 9 = conflictLines options ++ laterLines c texts := by
  rw [summaryOf_eq, List.drop_left' (length_topLines c)]

/-- The summary with rebuilds allowed is made from the one without, line by line. -/
theorem summaryOf_allowed (c : Classification) (binary source : List String)
    (texts : Outcome → List String) :
    summaryOf c ⟨binary, source, true⟩ texts =
      allowedLines binary source (summaryOf c ⟨binary, source, false⟩ texts) := by
  have htop : (topLines c).map Line.asNews = topLines c :=
    map_asNews_of_forall fun line hline => level_of_mem_topLines hline
  have hlater : (laterLines c texts).map Line.asNews = laterLines c texts :=
    map_asNews_of_forall fun line hline => level_of_mem_laterLines hline
  rw [allowedLines, take_summaryOf, drop_summaryOf, List.map_append, htop, hlater,
    conflictLines_strict, summaryOf_eq, conflictLines_allowed]
  simp only [List.append_assoc]

/-- A summary without rebuilds allowed has errors for its conflicts and nowhere else. -/
theorem strict_summaryOf (c : Classification) (binary source : List String)
    (texts : Outcome → List String) :
    Strict c binary source (summaryOf c ⟨binary, source, false⟩ texts) where
  top := take_summaryOf c _ texts
  conflicts := by
    rw [drop_summaryOf, conflictLines_strict]
    exact List.prefix_append _ _
  errors := by
    have htop : (topLines c).filter (fun line => line.level = Log.error) = [] :=
      filter_error_eq_nil fun line hline => level_of_mem_topLines hline
    have hlater : (laterLines c texts).filter (fun line => line.level = Log.error) = [] :=
      filter_error_eq_nil fun line hline => level_of_mem_laterLines hline
    have hconflicts : (conflictErrors binary source).filter (fun line => line.level = Log.error) =
        conflictErrors binary source :=
      List.filter_eq_self.2 fun line hline => decide_eq_true (level_of_mem_conflictErrors hline)
    rw [summaryOf_eq, conflictLines_strict, List.filter_append, List.filter_append, htop, hlater,
      hconflicts, List.nil_append, List.append_nil]
  others := by
    intro line hline hlevel
    rw [summaryOf_eq, conflictLines_strict] at hline
    rcases List.mem_append.1 hline with hline | hline
    · exact level_of_mem_topLines hline
    · rcases List.mem_append.1 hline with hline | hline
      · exact absurd (level_of_mem_conflictErrors hline) hlevel
      · exact level_of_mem_laterLines hline

/-- The switch takes all lines down to plain news and adds the note behind the top, and does nothing
else; without it the errors are the section about conflicts. -/
theorem lines_allowed (c : Classification) (binary source : List String) :
    lines c ⟨binary, source, true⟩ =
        (lines c ⟨binary, source, false⟩).map (allowedLines binary source) ∧
      ∀ strict, lines c ⟨binary, source, false⟩ = .ok strict → Strict c binary source strict := by
  constructor
  · cases hsections : Outcome.all.mapM (categoryLines c) with
    | error trouble =>
      rw [lines, lines, hsections]
      rfl
    | ok sections =>
      have hstrict : lines c ⟨binary, source, false⟩ =
          .ok (assemble c ⟨binary, source, false⟩ sections) := by
        rw [lines, hsections]
        rfl
      obtain ⟨texts, htexts, hsummary⟩ := lines_eq_ok_iff.1 hstrict
      rw [hstrict, hsummary]
      exact lines_eq_ok_iff.2 ⟨texts, htexts, (summaryOf_allowed c binary source texts).symm⟩
  · intro strict hstrict
    obtain ⟨texts, -, rfl⟩ := lines_eq_ok_iff.1 hstrict
    exact strict_summaryOf c binary source texts

/-- With one conflict of a binary package the summary of two archives has four errors, and the
switch adds a line. -/
theorem lines_allowed_zlib :
    ∃ strict,
      lines (Survey.of Survey.zlibGraph Survey.zlibProgress).classification ⟨["gcc"], [], false⟩ =
        .ok strict ∧
      Strict (Survey.of Survey.zlibGraph Survey.zlibProgress).classification ["gcc"] [] strict ∧
      lines (Survey.of Survey.zlibGraph Survey.zlibProgress).classification ⟨["gcc"], [], true⟩ =
        .ok (allowedLines ["gcc"] [] strict) ∧
      (strict.filter fun line => line.level = Log.error).map Line.text =
        ["Number of toolchain RPM conflicts: 1", "Number of toolchain SRPM conflicts: 0",
          "RPM conflicts with toolchain: ", "--> gcc"] := by
  obtain ⟨strict, hstrict⟩ :=
    exists_lines Survey.zlibGraph_typed Survey.zlibProgress ⟨["gcc"], [], false⟩
  obtain ⟨hallowed, hall⟩ :=
    lines_allowed (Survey.of Survey.zlibGraph Survey.zlibProgress).classification ["gcc"] []
  refine ⟨strict, hstrict, hall strict hstrict, ?_, ?_⟩
  · rw [hallowed, hstrict]
    rfl
  · rw [(hall strict hstrict).errors]
    decide

end PackageBuild.Summary
