import PackageBuild.Proofs.Graph.Numbering
import PackageBuild.Proofs.Report.Agreement
import PackageBuild.Proofs.Summary.Export
import PackageBuild.Proofs.Summary.Severity
import PackageBuild.Proofs.Telemetry.Logging

/-!
# What a report delivers

A report logs its lines whether or not its table could be written: a file that cannot be opened or
takes no data costs a warning only.  Two paths are different.  One with a null character stops the
report before its lines are logged, and one below an unknown home directory before it begins.

Main results:

- Theorem `Summary.records_of_lines`: every line of a summary is logged at its level.
- Theorem `exists_logs_compose`: the log of a report under the lock.
- Theorem `exists_delivered_of_path`: with another path, everything is delivered.
- Theorem `make_delivers_iff`: when a report delivers all that it is asked for.
-/

namespace PackageBuild.Summary

/-- Every line of a summary is logged, at its level and in order. -/
theorem records_of_lines {c : Classification} {options : Options} {ls : List Line}
    (h : lines c options = .ok ls) (logger : String) :
    records logger ls = ls.map fun line => ⟨logger, line.level, line.text⟩ := by
  have hrecord : ∀ line ∈ ls,
      Log.record logger line.level line.text = [⟨logger, line.level, line.text⟩] := by
    intro line hline
    refine Log.record_of_le ?_ logger line.text
    rcases level_of_mem_lines h hline with hlevel | hlevel <;> rw [hlevel] <;> decide
  rw [records, List.flatMap_congr hrecord]
  exact List.map_eq_flatMap.symm

end PackageBuild.Summary

namespace PackageBuild.Report

open Telemetry Telemetry.Activity

variable {ν α : Type} {s : Site ν}

/-! ## Single steps -/

/-- What ends well logs nothing. -/
theorem logs_ofTrouble (a : α) : Logs (ofTrouble (.ok a) : Work ν α) s a s [] := logs_pure a s

/-- With nodes of their shape surveying logs what the survey leaves out. -/
theorem logs_readSurvey (hs : s.graph.Typed) (reading : Graph → Progress.Reading α)
    (survey : α → Survey) :
    Logs (readSurvey reading survey) s ((reading s.graph).run s.progress) s
      (survey ((reading s.graph).run s.progress)).records := by
  intro t
  exact ⟨_, outcome_readSurvey reading survey t hs, Trace.logged_emitAll_log t _⟩

/-- Resolving blockers logs its warnings. -/
theorem logs_resolveBlockers {c : Classification} {blockers : Blocking.Blockers}
    (h : (Blocking.resolve s.graph c).2 = .ok blockers) :
    Logs (resolveBlockers c) s blockers s (Blocking.resolve s.graph c).1 := by
  refine (logs_state s).bind_silent ?_
  simp only [h]
  exact (logs_logAll (Blocking.resolve s.graph c).1 s).bind_last (logs_pure blockers s)

/-- Writing a table logs the warning that it ends with, if any. -/
theorem logs_writeTable {rows : List Summary.Row} {path : Path} {written : Summary.Written}
    (h : Summary.Export.write s.files rows path = .ok written) :
    Logs (writeTable rows path) s written.complete { s with files := written.files }
      written.records := by
  refine (logs_state s).bind_silent ?_
  simp only [h]
  refine (logs_onState _ s).bind_silent ?_
  exact (logs_logAll written.records _).bind_last (logs_pure written.complete _)

/-- Recording the contents of a report logs nothing. -/
theorem logs_recordContents (span : Nat) (c : Classification) (written : Bool) :
    Logs (recordContents span c written : Work ν Unit) s () s [] := by
  intro t
  obtain ⟨t', ht', hlogged⟩ := exists_outcome_recordContents span c written t s
  exact ⟨t', ht', by rw [hlogged, List.append_nil]⟩

/-- Reading the configuration changes nothing. -/
theorem logs_resolveConfiguration {given? : Option Configuration} {configuration : Configuration}
    (h : configurationAt given? s = .ok configuration) :
    ∃ records, Logs (resolveConfiguration given?) s configuration s records := by
  cases given? with
  | some given =>
    cases h
    exact ⟨[], logs_pure configuration s⟩
  | none =>
    have hresult := Attempt.mapError_eq_ok_iff.1 h
    refine ⟨(Configuration.ofEnvironment s.environment).2, (logs_state s).bind_silent ?_⟩
    simp only [hresult]
    exact (logs_logAll (Configuration.ofEnvironment s.environment).2 s).bind_last
      (logs_pure configuration s)

/-- Work under the lock logs what it logs where the lock is held. -/
theorem logs_readLocked {body : Work ν α} {a : α} {s' : Site ν} {records : List Log.Record}
    (h : Logs body s.held a s' records) :
    Logs (readLocked (pure ()) body) s a { s' with lock := giveBack s'.lock } records := by
  intro t
  obtain ⟨t', hbody, hrecords⟩ := h t
  exact ⟨t', outcome_readLocked hbody, hrecords⟩

/-! ## The table -/

/-- How the table of a report fares, with the files after it and what is logged about it. -/
inductive Tabled (configuration : Configuration) (files : FileSystem) (rows : List Summary.Row) :
    Bool → FileSystem → List Log.Record → Prop
  /-- No table is asked for. -/
  | unasked : configuration.tablePath? = none → Tabled configuration files rows false files []
  /-- Writing it ends in one of its ways. -/
  | asked {path : Path} {written : Summary.Written} :
      configuration.tablePath? = some path → Summary.Export.Wrote files rows path written →
      Tabled configuration files rows written.complete written.files written.records

/-- The table that is configured is written, or a warning is logged. -/
theorem exists_logs_writeConfigured {configuration : Configuration}
    (hpath : ∀ path, configuration.tablePath? = some path → '\x00' ∉ path.chars)
    (rows : List Summary.Row) :
    ∃ written files records, Tabled configuration s.files rows written files records ∧
      Logs (writeConfigured configuration rows) s written { s with files := files } records := by
  unfold writeConfigured
  cases h : configuration.tablePath? with
  | none => exact ⟨false, s.files, [], .unasked h, logs_pure false s⟩
  | some path =>
    obtain ⟨written, hwrite, hwrote⟩ := Summary.Export.exists_write (hpath path h) s.files rows
    exact ⟨_, _, _, .asked h hwrote, logs_writeTable hwrite⟩

section Tabled

variable {configuration : Configuration} {files after : FileSystem} {rows : List Summary.Row}
  {written : Bool} {table : List Log.Record} {path : Path}

/-- Without a path no table is written. -/
theorem Tabled.eq_false (h : Tabled configuration files rows written after table)
    (hpath : configuration.tablePath? = none) : written = false := by
  cases h with
  | unasked => rfl
  | asked hsome => cases hpath.symm.trans hsome

/-- The table is written when there is a place for it that takes data. -/
theorem Tabled.written_iff (h : Tabled configuration files rows written after table)
    (hpath : configuration.tablePath? = some path) :
    written = true ↔ ∃ place, files.locate path = .ok place ∧ files.find? place ≠ some .full := by
  cases h with
  | unasked hnone => cases hnone.symm.trans hpath
  | asked hsome hwrote =>
    cases hsome.symm.trans hpath
    exact hwrote.complete_iff

/-- A table that was written is in its file. -/
theorem Tabled.find?_eq (h : Tabled configuration files rows written after table)
    (hpath : configuration.tablePath? = some path) (hwritten : written = true) {place : Location}
    (hplace : files.locate path = .ok place) :
    after.find? place = some (.file (Summary.Csv.encode rows)) := by
  cases h with
  | unasked hnone => cases hnone.symm.trans hpath
  | asked hsome hwrote =>
    cases hsome.symm.trans hpath
    exact hwrote.find?_eq hwritten hplace

/-- A warning is logged for a table that is not written. -/
theorem Tabled.exists_warning (h : Tabled configuration files rows written after table)
    (hpath : configuration.tablePath? = some path) (hwritten : written = false) :
    ∃ record ∈ table, record.logger = Summary.Export.logger ∧ record.level = Log.warning ∧
      ∃ refusal, record ∈ Summary.Export.openWarning path.text refusal ∨
        record ∈ Summary.Export.writeWarning path.text refusal := by
  cases h with
  | unasked hnone => cases hnone.symm.trans hpath
  | asked hsome hwrote =>
    cases hsome.symm.trans hpath
    exact hwrote.exists_warning hwritten

end Tabled

/-! ## The whole report -/

/-- Under the lock a report logs the warnings of its survey and its blockers, then how its table
fared, and then its lines. -/
theorem exists_logs_compose (hs : s.graph.Typed)
    (hpredecessors : ∀ n ∈ s.graph.nodes, ∃ nodes, s.graph.predecessors (.node n) = .ok nodes)
    {configuration : Configuration}
    (hpath : ∀ path, configuration.tablePath? = some path → '\x00' ∉ path.chars)
    (logger : String) :
    ∃ r files before table, Tabled configuration s.files r.rows r.tableWritten files table ∧
      ∀ span, Logs (compose configuration logger span) s r { s with files := files }
        (before ++ table ++ r.lines.map fun line => ⟨logger, line.level, line.text⟩) := by
  obtain ⟨blockers, rows, hblockers, hrows⟩ := Summary.exists_rows hs hpredecessors s.progress
  obtain ⟨lines, hlines⟩ :=
    Summary.exists_lines_of_rows hrows (optionsOf s.progress configuration.allowRebuilds)
  obtain ⟨written, files, table, htabled, htable⟩ :=
    exists_logs_writeConfigured (s := s) hpath rows
  have hsurvey : Logs (readSurvey (fun g => surveyWithLines g configuration.allowRebuilds) Prod.fst)
      s _ s _ := logs_readSurvey hs _ _
  rw [run_surveyWithLines, hlines] at hsurvey
  refine ⟨⟨(Survey.of s.graph s.progress).classification, blockers, lines, rows,
    configuration.tablePath?.map Path.text, written⟩, files,
    (Survey.of s.graph s.progress).records ++
      (Blocking.resolve s.graph (Survey.of s.graph s.progress).classification).1, table, htabled,
    fun span => ?_⟩
  rw [List.append_assoc, List.append_assoc, compose]
  refine hsurvey.bind ((logs_resolveBlockers hblockers).bind ?_)
  simp only [hrows]
  refine (logs_ofTrouble rows).bind_silent (htable.bind ((logs_ofTrouble lines).bind_silent ?_))
  rw [← Summary.records_of_lines hlines]
  exact (logs_logAll _ _).bind_last ((logs_recordContents _ _ _).bind_last (logs_pure _ _))

/-- A report delivers what it is asked for: it logs all its lines, and its table is in its file
unless that could not be opened or written, for which a warning is logged. -/
structure Delivered (configuration : Configuration) (logger : String) (s : Site ν) (r : Report)
    (s' : Site ν) (logged : List Log.Record) : Prop where
  /-- Every line is logged at its level, in order. -/
  lines : ∃ before, logged = before ++ r.lines.map fun line => ⟨logger, line.level, line.text⟩
  /-- Without a path no table is written. -/
  unasked : configuration.tablePath? = none → r.tableWritten = false
  /-- The table is written when there is a place for it that takes data. -/
  written_iff : ∀ path, configuration.tablePath? = some path →
    (r.tableWritten = true ↔
      ∃ place, s.files.locate path = .ok place ∧ s.files.find? place ≠ some .full)
  /-- A table that is written is in its file. -/
  file : ∀ path place, configuration.tablePath? = some path → r.tableWritten = true →
    s.files.locate path = .ok place →
      s'.files.find? place = some (.file (Summary.Csv.encode r.rows))
  /-- A warning is logged for a table that is not written. -/
  warned : ∀ path, configuration.tablePath? = some path → r.tableWritten = false →
    ∃ record ∈ logged, record.logger = Summary.Export.logger ∧ record.level = Log.warning ∧
      ∃ refusal, record ∈ Summary.Export.openWarning path.text refusal ∨
        record ∈ Summary.Export.writeWarning path.text refusal

/-- A report is delivered when its table was written as configured and its lines were logged. -/
theorem delivered_of_tabled {configuration : Configuration} {logger : String} {r : Report}
    {s' : Site ν} {table : List Log.Record}
    (h : Tabled configuration s.files r.rows r.tableWritten s'.files table)
    (before : List Log.Record) :
    Delivered configuration logger s r s'
      (before ++ table ++ r.lines.map fun line => ⟨logger, line.level, line.text⟩) where
  lines := ⟨before ++ table, rfl⟩
  unasked := h.eq_false
  written_iff _ := h.written_iff
  file _ _ hpath hwritten hplace := h.find?_eq hpath hwritten hplace
  warned _ hpath hwritten := by
    obtain ⟨record, hrecord, hwarning⟩ := h.exists_warning hpath hwritten
    exact ⟨record, List.mem_append_left _ (List.mem_append_right _ hrecord), hwarning⟩

/-- With a path without null characters, or without a path, everything is delivered. -/
theorem exists_delivered_of_path (hs : s.graph.Typed)
    (hpredecessors : ∀ n ∈ s.graph.nodes, ∃ nodes, s.graph.predecessors (.node n) = .ok nodes)
    {given? : Option Configuration} {configuration : Configuration}
    (hconfiguration : configurationAt given? s = .ok configuration)
    (hpath : ∀ path, configuration.tablePath? = some path → '\x00' ∉ path.chars)
    (logger : String) :
    ∃ r s' logged, Logs (make (pure ()) given? logger) s r s' logged ∧
      Delivered configuration logger s r s' logged := by
  obtain ⟨records, hresolved⟩ := logs_resolveConfiguration hconfiguration
  obtain ⟨r, files, before, table, htabled, hcompose⟩ :=
    exists_logs_compose (s := s.held) hs hpredecessors hpath logger
  refine ⟨r, _, _, hresolved.bind
    (logs_stage [(stageKey, "summary")] rfl fun span => logs_readLocked (hcompose span)), ?_⟩
  rw [← List.append_assoc, ← List.append_assoc]
  exact delivered_of_tabled htabled (records ++ before)

/-! ## A path with a null character -/

/-- A null character in the path of the table is refused. -/
theorem configuredTable_of_null {configuration : Configuration} {path : Path}
    (hpath : configuration.tablePath? = some path) (hnull : '\x00' ∈ path.chars)
    (files : FileSystem) (rows : List Summary.Row) :
    configuredTable files configuration rows = .error .nullInPath := by
  rw [configuredTable, hpath]
  simp only [tableAt, Summary.Export.write_null hnull]
  rfl

/-- A path with a null character stops a report that could be made without a path. -/
theorem ends_make_of_null (hs : s.graph.Typed)
    (hpredecessors : ∀ n ∈ s.graph.nodes, ∃ nodes, s.graph.predecessors (.node n) = .ok nodes)
    {given? : Option Configuration} {configuration : Configuration} {path : Path}
    (hconfiguration : configurationAt given? s = .ok configuration)
    (hpath : configuration.tablePath? = some path) (hnull : '\x00' ∈ path.chars)
    (logger : String) :
    Ends (make (pure ()) given? logger) s (.error .nullInPath) fun _ => True := by
  obtain ⟨r, hr⟩ := exists_reported hs hpredecessors configuration.allowRebuilds
  obtain ⟨shown, hshown, -⟩ := Attempt.bind_eq_ok_iff.1 hr
  have hreported : reported configuration s = .error .nullInPath := by
    rw [reported, hshown]
    simp only [configuredTable_of_null hpath hnull, bind, Except.bind]
  have hends := ends_make (s := s) given? logger
  rw [hconfiguration] at hends
  exact hreported ▸ hends

/-! ## When a report delivers -/

/-- A report is had, and everything is delivered, exactly when it has a configuration whose path, if
there is one, holds no null character. -/
theorem make_delivers_iff (hs : s.graph.Typed) (hnumbered : s.graph.Numbered)
    (hsize : s.graph.nodes.length ≤ Graph.widthBound) (given? : Option Configuration)
    (logger : String) (t : Trace) :
    (∃ configuration r t' s' logged, configurationAt given? s = .ok configuration ∧
        (make (pure ()) given? logger).outcome t s = (.ok r, t', s') ∧
        t'.logged = t.logged ++ logged ∧ Delivered configuration logger s r s' logged) ↔
      ∃ configuration, configurationAt given? s = .ok configuration ∧
        ∀ path, configuration.tablePath? = some path → '\x00' ∉ path.chars := by
  constructor
  · rintro ⟨configuration, r, t', s', logged, hconfiguration, hmake, -, -⟩
    refine ⟨configuration, hconfiguration, fun path hpath hnull => ?_⟩
    obtain ⟨_, _, hends, -⟩ := ends_make_of_null hs (hnumbered.exists_predecessors hsize)
      hconfiguration hpath hnull logger t
    rw [hmake] at hends
    cases congrArg Prod.fst hends
  · rintro ⟨configuration, hconfiguration, hpath⟩
    obtain ⟨r, s', logged, hlogs, hdelivered⟩ := exists_delivered_of_path hs
      (hnumbered.exists_predecessors hsize) hconfiguration hpath logger
    obtain ⟨t', hmake, hlogged⟩ := hlogs t
    exact ⟨configuration, r, t', s', logged, hconfiguration, hmake, hlogged, hdelivered⟩

/-- The site of a failed package, with a device that has no space. -/
def fullSite : Site Unit :=
  { blockedSite with
    files := (FileSystem.fresh.put (FileSystem.placeOf ["dev"]) .directory).put
      (FileSystem.placeOf ["dev", "full"]) .full }

/-- The table cannot be written to a device without space; the lines are logged, and a warning names
of the table. -/
theorem make_delivers_full :
    ∃ r t' s' logged,
      (make (pure ()) (some ⟨false, some (.ofText "/dev/full")⟩) "builder").outcome {} fullSite =
        (.ok r, t', s') ∧
      t'.logged = logged ∧ r.tableWritten = false ∧
      (∃ before, logged = before ++ r.lines.map fun line => ⟨"builder", line.level, line.text⟩) ∧
      ∃ record ∈ logged, record.logger = Summary.Export.logger ∧ record.level = Log.warning := by
  obtain ⟨configuration, r, t', s', logged, hconfiguration, hmake, hlogged, hdelivered⟩ :=
    (make_delivers_iff (s := fullSite) Survey.zlibGraph_typed rfl (by decide)
      (some ⟨false, some (.ofText "/dev/full")⟩) "builder" {}).2 ⟨_, rfl, by
        rintro path ⟨⟩
        decide⟩
  cases hconfiguration
  have hfull : ∀ place, fullSite.files.locate (.ofText "/dev/full") = .ok place →
      fullSite.files.find? place = some .full := by
    have hlocate : fullSite.files.locate (.ofText "/dev/full") =
        .ok (FileSystem.placeOf ["dev", "full"]) := by
      decide +kernel
    intro place hplace
    cases hlocate.symm.trans hplace
    decide +kernel
  have hwritten : r.tableWritten = false := by
    rw [← Bool.not_eq_true, hdelivered.written_iff _ rfl]
    rintro ⟨place, hplace, hne⟩
    exact hne (hfull place hplace)
  obtain ⟨record, hrecord, hlogger, hlevel, -⟩ := hdelivered.warned _ rfl hwritten
  exact ⟨r, t', s', logged, hmake, hlogged, hwritten, hdelivered.lines, record, hrecord, hlogger,
    hlevel⟩

/-- A site without nodes. -/
def emptySite (settings : List (String × String)) : Site Unit :=
  { environment := .ofSettings settings, notes := () }

/-- A null character in the path stops a report without its lines, and so does an unknown home
directory that the environment names. -/
theorem make_stops :
    (((make (pure ()) (some ⟨false, some (.ofText "a\x00b.csv")⟩) Summary.logger).outcome {}
          (emptySite [])).1 = .error .nullInPath ∧
      ((make (pure ()) (some ⟨false, some (.ofText "a\x00b.csv")⟩) Summary.logger).outcome {}
          (emptySite [])).2.1.logged = []) ∧
    ((make (pure ()) none Summary.logger).outcome {}
          (emptySite [("BUILD_SUMMARY_FILE", "~nobody_knows/t.csv")])).1 = .error .homeUnknown ∧
      ((make (pure ()) none Summary.logger).outcome {}
          (emptySite [("BUILD_SUMMARY_FILE", "~nobody_knows/t.csv")])).2.1.logged = [] := by
  refine ⟨⟨?_, by decide +kernel⟩, rfl, by decide +kernel⟩
  have hconfiguration : configurationAt (some ⟨false, some (.ofText "a\x00b.csv")⟩) (emptySite []) =
      .ok ⟨false, some (.ofText "a\x00b.csv")⟩ := rfl
  obtain ⟨_, _, hends, -⟩ := ends_make_of_null (fun _ h => absurd h List.not_mem_nil)
    (fun _ h => absurd h List.not_mem_nil) hconfiguration rfl (by decide) Summary.logger {}
  rw [hends]

end PackageBuild.Report
