import PackageBuild.Proofs.Summary.Export

/-!
# The two effects of writing a table

Writing a table to the path of a text either fills one file and logs nothing, or changes nothing and
warns once.  Which of the two it is can be read off the places on the way to the file.

Main results:

- Theorem `workingDirectory_write`: writing a table leaves the working directory.
- Theorem `filled_or_warned`: the two effects of writing a table.
-/

namespace PackageBuild.Summary.Export

variable {files : FileSystem} {rows : List Row} {path : Path} {written : Written}

/-- The file of a path holds the table, nothing else has changed, and nothing was logged. -/
structure Filled (files : FileSystem) (rows : List Row) (path : Path) (written : Written) :
    Prop where
  complete : written.complete = true
  records : written.records = []
  contents : written.files.find? (files.target path) = some (.file (Csv.encode rows))
  others : ∀ place, place ≠ files.target path → written.files.find? place = files.find? place
  workingDirectory : written.files.workingDirectory = files.workingDirectory

/-- One warning names the path and why the table is not there: the file could not be opened, or it
takes no data. -/
inductive Warning (files : FileSystem) (path : Path) : Log.Record → Prop
  | notOpened {refusal : FileSystem.Refusal} : FileSystem.Refuses files path refusal →
      Warning files path ⟨logger, Log.warning,
        "Unable to create '" ++ path.text ++ "' file. Error: " ++ refusal.message (some path.text)⟩
  | notWritten : files.Leads path → files.find? (files.target path) = some .full →
      Warning files path ⟨logger, Log.warning, "Failed to write to CSV file '" ++ path.text ++
        "'. Error: " ++ FileSystem.Refusal.noSpace.message none⟩

/-- Nothing has changed, and one warning was given. -/
structure Warned (files : FileSystem) (path : Path) (written : Written) : Prop where
  complete : written.complete = false
  records : ∃ record, written.records = [record] ∧ Warning files path record
  files : written.files = files

/-- Writing a table keeps the working directory. -/
theorem workingDirectory_write (h : write files rows path = .ok written) :
    written.files.workingDirectory = files.workingDirectory := by
  unfold write at h
  split at h
  · contradiction
  · split at h
    · cases h
      rfl
    · next hopen =>
      have hopened := FileSystem.workingDirectory_openFile hopen
      split at h
      · cases h
        exact hopened
      · next hwrite =>
        cases h
        exact (FileSystem.workingDirectory_writeFile hwrite).trans hopened

/-- Writing a table to the path of a text has one of two effects.  Where the path leads to something
that takes data, its file holds the table afterwards and everything else is as before; otherwise
everything is as before and one warning gives the reason.  Nothing else can happen unless the text
holds a null character. -/
theorem filled_or_warned (files : FileSystem) (rows : List Row) {text : String}
    (h : '\x00' ∉ text.toList) : ∃ written, write files rows (.ofText text) = .ok written ∧
      (files.Leads (.ofText text) ∧ files.find? (files.target (.ofText text)) ≠ some .full →
        Filled files rows (.ofText text) written) ∧
      (¬ (files.Leads (.ofText text) ∧ files.find? (files.target (.ofText text)) ≠ some .full) →
        Warned files (.ofText text) written) := by
  obtain ⟨written, hwrite, hwrote⟩ := exists_write (Path.null_not_mem_chars h) files rows
  have hworking := workingDirectory_write hwrite
  refine ⟨written, hwrite, ?_⟩
  cases hwrote with
  | complete hlocate hfull hfound hothers =>
    obtain ⟨rfl, hleads⟩ := FileSystem.locate_eq_ok_iff.1 hlocate
    exact ⟨fun _ => ⟨rfl, rfl, hfound, hothers, hworking⟩, fun hnot => absurd ⟨hleads, hfull⟩ hnot⟩
  | notOpened hlocate =>
    have hrefuses := FileSystem.refuses_of_locate hlocate
    exact ⟨fun hgood => absurd hrefuses hgood.1.not_refuses,
      fun _ => ⟨rfl, ⟨_, rfl, .notOpened hrefuses⟩, rfl⟩⟩
  | notWritten hlocate hfull =>
    obtain ⟨rfl, hleads⟩ := FileSystem.locate_eq_ok_iff.1 hlocate
    exact ⟨fun hgood => absurd hfull hgood.2,
      fun _ => ⟨rfl, ⟨_, rfl, .notWritten hleads hfull⟩, rfl⟩⟩

/-- A file system in which the file of a table is there already, with a longer text. -/
def crowded : FileSystem :=
  FileSystem.fresh.put FileSystem.tablePlace
    (.file "Package,State,Blocker\nan-earlier-package.src.rpm,Failed,a-blocker.src.rpm-FAILED\n")

theorem locate_crowded :
    crowded.locate (.ofText "..//work/./t.csv/") = .ok FileSystem.tablePlace := by
  decide +kernel

theorem crowded_takes : crowded.find? FileSystem.tablePlace ≠ some .full := by
  decide +kernel

/-- A roundabout path names its file, and nothing of the longer text stays in it. -/
theorem filled_or_warned_crowded : ∃ written,
    write crowded [⟨"a.src.rpm", .built, ""⟩] (.ofText "..//work/./t.csv/") = .ok written ∧
      written.complete = true ∧ written.records = [] ∧
      written.files.find? FileSystem.tablePlace =
        some (.file "Package,State,Blocker\na.src.rpm,Built,\n") := by
  have hnull : '\x00' ∉ "..//work/./t.csv/".toList := by decide
  obtain ⟨written, hwrite, hfilled, -⟩ :=
    filled_or_warned crowded [⟨"a.src.rpm", .built, ""⟩] hnull
  obtain ⟨hplace, hleads⟩ := FileSystem.locate_eq_ok_iff.1 locate_crowded
  rw [← hplace] at hfilled
  have hdone := hfilled ⟨hleads, crowded_takes⟩
  have hcontents := hdone.contents
  rw [← hplace] at hcontents
  exact ⟨written, hwrite, hdone.complete, hdone.records, hcontents⟩

end PackageBuild.Summary.Export
