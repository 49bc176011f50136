import PackageBuild.Proofs.FileSystem
import PackageBuild.Proofs.Summary.Csv
import PackageBuild.Summary.Export

/-!
# What a written file holds

Writing a table ends in one of three ways: the file holds the table, it could not be opened, or it
could not be written.  The table that a file holds has all its rows for a reader that ends records
at line feeds only.

Main results:

- Theorem `records_encode_iff`: the text of a table is read back exactly when all fields survive.
- Theorem `Export.exists_write`: the three ways in which writing a table ends.
- Theorem `Export.records_of_written`: a table that was written completely is read back.
-/

namespace PackageBuild.FileSystem

/-- The place of a table in the working directory of a fresh file system. -/
def tablePlace : Location := placeOf ["work", "t.csv"]

theorem locate_tablePlace : fresh.locate (.ofText "t.csv") = .ok tablePlace := by
  decide +kernel

theorem tablePlace_takes : fresh.find? tablePlace ≠ some .full := by
  decide +kernel

end PackageBuild.FileSystem

namespace PackageBuild.Summary

namespace Csv

variable {e : RecordEnd}

/-- Tables of texts are those of their characters. -/
theorem map_ofList_eq_iff {table : List (List (List Char))} {texts : List (List String)} :
    (table.map fun fields => fields.map String.ofList) = texts ↔
      table = texts.map fun fields => fields.map String.toList := by
  constructor
  · rintro rfl
    simp [Function.comp_def]
  · rintro rfl
    simp [Function.comp_def]

/-- The names of the columns are read back by every reader. -/
theorem survives_columnNames (e : RecordEnd) :
    ∀ name ∈ columnNames, Survives e name.toList := by
  cases e <;> decide

/-- The text of a table is read back exactly when all fields of its rows survive. -/
theorem records_encode_iff {rows : List Row} :
    records e (encode rows) = columnNames :: rows.map RowOf.columns ↔
      ∀ row ∈ rows, ∀ field ∈ row.columns, Survives e field.toList := by
  have hwide : ∀ fields ∈ (columnNames :: rows.map RowOf.columns).map (·.map String.toList),
      2 ≤ fields.length := by
    intro fields hfields
    obtain ⟨texts, htexts, rfl⟩ := List.mem_map.1 hfields
    have hlength : texts.length = 3 := by
      rcases List.mem_cons.1 htexts with rfl | htexts
      · rfl
      · obtain ⟨row, -, rfl⟩ := List.mem_map.1 htexts
        rfl
    simp [hlength]
  rw [records, encode, String.toList_ofList, map_ofList_eq_iff,
    decodeTable_encodeTable_iff hwide]
  constructor
  · intro h row hrow field hfield
    exact h (row.columns.map String.toList)
      (List.mem_map.2 ⟨_, List.mem_cons_of_mem _ (List.mem_map_of_mem hrow), rfl⟩) _
      (List.mem_map_of_mem hfield)
  · intro h fields hfields field hfield
    obtain ⟨texts, htexts, rfl⟩ := List.mem_map.1 hfields
    obtain ⟨text, htext, rfl⟩ := List.mem_map.1 hfield
    rcases List.mem_cons.1 htexts with rfl | htexts
    · exact survives_columnNames e text htext
    · obtain ⟨row, hrow, rfl⟩ := List.mem_map.1 htexts
      exact h row hrow text htext

end Csv

namespace Export

/-- How writing rows to a path without null characters ends. -/
inductive Wrote (files : FileSystem) (rows : List Row) (path : Path) : Written → Prop
  /-- The file holds the table, and every other file is as before. -/
  | complete {place : Location} {after : FileSystem} :
      files.locate path = .ok place → files.find? place ≠ some .full →
      after.find? place = some (.file (Csv.encode rows)) →
      (∀ other, other ≠ place → after.find? other = files.find? other) →
      Wrote files rows path ⟨after, true, []⟩
  /-- There is no file to write to. -/
  | notOpened {refusal : FileSystem.Refusal} :
      files.locate path = .error refusal →
      Wrote files rows path ⟨files, false, openWarning path.text refusal⟩
  /-- The file takes no data. -/
  | notWritten {place : Location} :
      files.locate path = .ok place → files.find? place = some .full →
      Wrote files rows path ⟨files, false, writeWarning path.text .noSpace⟩

/-- Writing ends in one of the three ways, unless the path holds a null character. -/
theorem exists_write {path : Path} (h : '\x00' ∉ path.chars) (files : FileSystem)
    (rows : List Row) : ∃ written, write files rows path = .ok written ∧
      Wrote files rows path written := by
  rw [write, if_neg h]
  cases hlocate : files.locate path with
  | error refusal =>
    rw [FileSystem.openFile_eq_error hlocate]
    exact ⟨_, rfl, .notOpened hlocate⟩
  | ok place =>
    rw [FileSystem.openFile_eq hlocate]
    have hne := FileSystem.ne_nil_of_locate hlocate
    by_cases hfull : files.find? place = some .full
    · refine ⟨⟨files, false, writeWarning path.text .noSpace⟩, ?_, .notWritten hlocate hfull⟩
      simp [hfull, FileSystem.writeFile]
    · refine ⟨⟨(files.put place (.file "")).put place (.file (Csv.encode rows)), true, []⟩, ?_,
        .complete hlocate hfull ?_ fun other hother => ?_⟩
      · simp [hfull, FileSystem.writeFile, FileSystem.find?_put _ hne]
      · rw [FileSystem.find?_put _ hne, if_pos rfl]
      · rw [FileSystem.find?_put _ hne, FileSystem.find?_put _ hne, if_neg hother, if_neg hother]

namespace Wrote

variable {files : FileSystem} {rows : List Row} {path : Path} {place : Location} {written : Written}

/-- The table is written completely when there is a place for it that takes data. -/
theorem complete_iff (h : Wrote files rows path written) :
    written.complete = true ↔
      ∃ place, files.locate path = .ok place ∧ files.find? place ≠ some .full := by
  cases h with
  | complete hlocate hfull => exact ⟨fun _ => ⟨_, hlocate, hfull⟩, fun _ => rfl⟩
  | notOpened hlocate => simp [hlocate]
  | notWritten hlocate hfull => simp [hlocate, hfull]

/-- A table that is written completely is in its file. -/
theorem find?_eq (h : Wrote files rows path written) (hcomplete : written.complete = true)
    (hplace : files.locate path = .ok place) :
    written.files.find? place = some (.file (Csv.encode rows)) := by
  cases h with
  | complete hlocate _ hfound =>
    cases hlocate.symm.trans hplace
    exact hfound
  | notOpened _ => contradiction
  | notWritten _ _ => contradiction

/-- A warning is logged for a table that is not written completely. -/
theorem exists_warning (h : Wrote files rows path written) (hcomplete : written.complete = false) :
    ∃ record ∈ written.records, record.logger = logger ∧ record.level = Log.warning ∧
      ∃ refusal, record ∈ openWarning path.text refusal ∨
        record ∈ writeWarning path.text refusal := by
  cases h with
  | complete _ _ _ _ => contradiction
  | @notOpened refusal _ =>
    exact ⟨_, List.mem_singleton_self _, rfl, rfl, refusal, .inl (List.mem_singleton_self _)⟩
  | notWritten _ _ =>
    exact ⟨_, List.mem_singleton_self _, rfl, rfl, .noSpace, .inr (List.mem_singleton_self _)⟩

end Wrote

/-- Where there is a place that takes data, the table is written to it. -/
theorem exists_complete_write {files : FileSystem} {path : Path} {place : Location}
    (h : '\x00' ∉ path.chars) (hlocate : files.locate path = .ok place)
    (hfull : files.find? place ≠ some .full) (rows : List Row) :
    ∃ written, write files rows path = .ok written ∧ written.complete = true ∧
      written.files.find? place = some (.file (Csv.encode rows)) := by
  obtain ⟨written, hwrite, hwrote⟩ := exists_write h files rows
  have hcomplete := hwrote.complete_iff.2 ⟨place, hlocate, hfull⟩
  exact ⟨written, hwrite, hcomplete, hwrote.find?_eq hcomplete hlocate⟩

/-- A table that was written completely is read back, column names first and then row by row, by a
reader that ends records at line feeds only.  It is written completely wherever there is a place for
it that takes data. -/
theorem records_of_written (rows : List Row) (files : FileSystem) {path : Path}
    (h : '\x00' ∉ path.chars) :
    ∃ written, write files rows path = .ok written ∧
      (written.complete = true ↔
        ∃ place, files.locate path = .ok place ∧ files.find? place ≠ some .full) ∧
      ∀ place, files.locate path = .ok place → written.complete = true →
        ∃ text, written.files.find? place = some (.file text) ∧
          Csv.records .lineFeed text = columnNames :: rows.map RowOf.columns := by
  obtain ⟨written, hwrite, hwrote⟩ := exists_write h files rows
  refine ⟨written, hwrite, hwrote.complete_iff, fun place hplace hcomplete => ?_⟩
  refine ⟨_, hwrote.find?_eq hcomplete hplace, Csv.records_encode_iff.2 fun row _ field _ => ?_⟩
  exact Csv.survives_lineFeed field.toList

/-- Commas, quotes, line feeds, carriage returns and empty fields come back as they were. -/
theorem records_of_written_awkward : ∃ written,
    write .fresh [⟨"a\",\"b\n", .built, ""⟩, ⟨"\r \"", .failed, "x, \"\"\r\ny"⟩,
        ⟨"", .unbuilt, "\""⟩] (.ofText "t.csv") = .ok written ∧ written.complete = true ∧
      ∃ text, written.files.find? FileSystem.tablePlace = some (.file text) ∧
        Csv.records .lineFeed text = [columnNames, ["a\",\"b\n", "Built", ""],
          ["\r \"", "Failed", "x, \"\"\r\ny"], ["", "Unbuilt", "\""]] := by
  obtain ⟨written, hwrite, hcomplete, hread⟩ := records_of_written
    [⟨"a\",\"b\n", .built, ""⟩, ⟨"\r \"", .failed, "x, \"\"\r\ny"⟩, ⟨"", .unbuilt, "\""⟩]
    .fresh (show '\x00' ∉ (Path.ofText "t.csv").chars by decide)
  have hdone := hcomplete.2 ⟨_, FileSystem.locate_tablePlace, FileSystem.tablePlace_takes⟩
  exact ⟨written, hwrite, hdone, hread _ FileSystem.locate_tablePlace hdone⟩

end Export

end PackageBuild.Summary
