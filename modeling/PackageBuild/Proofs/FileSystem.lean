import PackageBuild.FileSystem
import PackageBuild.Proofs.Attempt
import PackageBuild.Proofs.Text.Pieces

/-!
# Where a path leads

A path can be opened for writing when every place on the way is a directory, no name and not the
whole path is too long, and what it leads to is no directory.  Otherwise the first thing that is in
the way is the reason why it cannot.  A file that was opened is empty, unless it takes no data.

Main results:

- Theorem `Path.mem_chars_ofChars`: a path made from a text has no characters of its own but slashes
  and dots.
- Theorems `FileSystem.walk_eq_ok_iff` and `FileSystem.walk_eq_error_iff`: when a walk from
  directory to directory arrives, and what stops it.
- Theorem `FileSystem.leads_or_refuses`: a path leads to a file, or something is in the way.
- Theorem `FileSystem.locate_eq_ok_iff`: when a path can be opened for writing, and where it leads.
- Theorem `FileSystem.openFile_eq`: what opening a file leaves.
-/

namespace PackageBuild

/-! ## The characters of a path -/

namespace Path

/-- An anchor consists of slashes. -/
theorem eq_slash_of_mem_anchor {anchor : Anchor} {c : Char} (h : c ∈ anchor.text) : c = '/' := by
  cases anchor <;> simp_all [Anchor.text]

/-- A path made from a text has no characters of its own but slashes and dots. -/
theorem mem_chars_ofChars {s : List Char} {c : Char} (h : c ∈ (ofChars s).chars) :
    c = '/' ∨ c = '.' ∨ c ∈ s := by
  unfold chars at h
  split at h
  · exact .inr (.inl (List.mem_singleton.1 h))
  · rcases List.mem_append.1 h with h | h
    · exact .inl (eq_slash_of_mem_anchor h)
    · rcases Text.mem_joinWith h with h | ⟨part, hpart, h⟩
      · exact .inl h
      · exact .inr (.inr (Text.mem_of_mem_splitOn (List.mem_filter.1 hpart).1 h))

/-- The path of a text without null characters has none. -/
theorem null_not_mem_chars {text : String} (h : '\x00' ∉ text.toList) :
    '\x00' ∉ (ofText text).chars := by
  intro hmem
  rcases mem_chars_ofChars hmem with heq | heq | hmem
  · exact absurd heq (by decide)
  · exact absurd heq (by decide)
  · exact h hmem

end Path

/-! ## Walks -/

namespace FileSystem

variable {fs : FileSystem} {place found : Location} {path : Path} {part : List Char}
  {parts rest : List (List Char)} {refusal : Refusal}

/-- Nothing is in the way from a place along components: every place before a component is a
directory, and no component is too long. -/
structure Passes (fs : FileSystem) (place : Location) (parts : List (List Char)) : Prop where
  places : ∀ n < parts.length, fs.find? ((parts.take n).foldl next place) = some .directory
  names : ∀ part ∈ parts, byteLength part < nameBound

/-- What is in the way at a place in front of a component. -/
inductive Blocks (fs : FileSystem) (place : Location) (part : List Char) : Refusal → Prop
  | noEntry : fs.find? place = none → Blocks fs place part .noEntry
  | notDirectory {entry : Entry} : fs.find? place = some entry → entry ≠ .directory →
      Blocks fs place part .notDirectory
  | nameTooLong : fs.find? place = some .directory → nameBound ≤ byteLength part →
      Blocks fs place part .nameTooLong

theorem passes_nil : fs.Passes place [] := ⟨by simp, by simp⟩

/-- The way along components is free when it is free past the first one and from there on. -/
theorem passes_cons_iff : fs.Passes place (part :: rest) ↔
    (fs.find? place = some .directory ∧ byteLength part < nameBound) ∧
      fs.Passes (next place part) rest := by
  constructor
  · rintro ⟨hplaces, hnames⟩
    rw [List.length_cons, Nat.forall_lt_succ_left] at hplaces
    obtain ⟨hname, hnames⟩ := List.forall_mem_cons.1 hnames
    exact ⟨⟨hplaces.1, hname⟩, hplaces.2, hnames⟩
  · rintro ⟨⟨hplace, hname⟩, hplaces, hnames⟩
    refine ⟨?_, List.forall_mem_cons.2 ⟨hname, hnames⟩⟩
    rw [List.length_cons, Nat.forall_lt_succ_left]
    exact ⟨hplace, hplaces⟩

/-- A walk goes on from a directory with a component that is not too long, and stops elsewhere. -/
theorem walk_cons (fs : FileSystem) (place : Location) (part : List Char)
    (rest : List (List Char)) :
    (fs.find? place = some .directory ∧ byteLength part < nameBound) ∧
        fs.walk place (part :: rest) = fs.walk (next place part) rest ∨
      ∃ refusal, fs.walk place (part :: rest) = .error refusal ∧ Blocks fs place part refusal := by
  rw [walk]
  cases hplace : fs.find? place with
  | none => exact .inr ⟨_, rfl, .noEntry hplace⟩
  | some entry =>
    cases entry with
    | directory =>
      by_cases hlong : nameBound ≤ byteLength part
      · exact .inr ⟨_, if_pos hlong, .nameTooLong hplace hlong⟩
      · exact .inl ⟨⟨rfl, Nat.lt_of_not_le hlong⟩, if_neg hlong⟩
    | file text => exact .inr ⟨_, rfl, .notDirectory hplace (by simp)⟩
    | full => exact .inr ⟨_, rfl, .notDirectory hplace (by simp)⟩

/-- Where something is in the way, a walk does not go on. -/
theorem Blocks.not_clear (h : Blocks fs place part refusal) :
    ¬ (fs.find? place = some .directory ∧ byteLength part < nameBound) := by
  rintro ⟨hplace, hname⟩
  cases h with
  | noEntry hnone => cases hplace.symm.trans hnone
  | notDirectory hentry hne =>
    cases hplace.symm.trans hentry
    exact hne rfl
  | nameTooLong _ hlong => exact Nat.not_le_of_lt hname hlong

/-- At most one thing is in the way at a place. -/
theorem Blocks.unique {other : Refusal} (h : Blocks fs place part refusal)
    (h' : Blocks fs place part other) : refusal = other := by
  cases h <;> cases h' <;> simp_all

/-- A walk arrives when nothing is in the way. -/
theorem walk_eq_ok_iff :
    fs.walk place parts = .ok found ↔ found = parts.foldl next place ∧ fs.Passes place parts := by
  induction parts generalizing place with
  | nil => simp [walk, passes_nil, eq_comm]
  | cons part rest ih =>
    rw [passes_cons_iff, List.foldl_cons]
    rcases fs.walk_cons place part rest with ⟨hclear, hwalk⟩ | ⟨refusal, hwalk, hblocks⟩
    · rw [hwalk, ih, and_iff_right hclear]
    · simp [hwalk, hblocks.not_clear]

/-- A walk stops at the first thing that is in the way. -/
theorem walk_eq_error_iff :
    fs.walk place parts = .error refusal ↔ ∃ before part rest, parts = before ++ part :: rest ∧
      fs.Passes place before ∧ Blocks fs (before.foldl next place) part refusal := by
  induction parts generalizing place with
  | nil => simp [walk]
  | cons part rest ih =>
    rcases fs.walk_cons place part rest with ⟨hclear, hwalk⟩ | ⟨first, hwalk, hblocks⟩
    · rw [hwalk, ih]
      constructor
      · rintro ⟨before, part', rest', rfl, hpasses, hblocks⟩
        exact ⟨part :: before, part', rest', rfl, passes_cons_iff.2 ⟨hclear, hpasses⟩, hblocks⟩
      · rintro ⟨before, part', rest', hparts, hpasses, hblocks⟩
        cases before with
        | nil =>
          cases hparts
          exact absurd hclear hblocks.not_clear
        | cons _ before =>
          cases hparts
          exact ⟨before, part', rest', rfl, (passes_cons_iff.1 hpasses).2, hblocks⟩
    · rw [hwalk, Except.error.injEq]
      constructor
      · rintro rfl
        exact ⟨[], part, rest, rfl, passes_nil, hblocks⟩
      · rintro ⟨before, part', rest', hparts, hpasses, hblocks'⟩
        cases before with
        | nil =>
          cases hparts
          exact hblocks.unique hblocks'
        | cons _ before =>
          cases hparts
          exact absurd (passes_cons_iff.1 hpasses).1 hblocks.not_clear

/-! ## Where a path leads -/

/-- The place that a path names. -/
def target (fs : FileSystem) (path : Path) : Location := path.parts.foldl next (fs.start path)

/-- A path leads to something that is no directory, or to a place where nothing is yet. -/
structure Leads (fs : FileSystem) (path : Path) : Prop where
  short : path.text.utf8ByteSize < pathBound
  passes : fs.Passes (fs.start path) path.parts
  noDirectory : fs.find? (fs.target path) ≠ some .directory

/-- Why a path does not lead to anything that can be opened for writing. -/
inductive Refuses (fs : FileSystem) (path : Path) : Refusal → Prop
  | pathTooLong : pathBound ≤ path.text.utf8ByteSize → Refuses fs path .nameTooLong
  | onTheWay {before : List (List Char)} {part : List Char} {rest : List (List Char)}
      {refusal : Refusal} : path.text.utf8ByteSize < pathBound →
      path.parts = before ++ part :: rest → fs.Passes (fs.start path) before →
      Blocks fs (before.foldl next (fs.start path)) part refusal → Refuses fs path refusal
  | isDirectory : path.text.utf8ByteSize < pathBound → fs.Passes (fs.start path) path.parts →
      fs.find? (fs.target path) = some .directory → Refuses fs path .isDirectory

/-- A path leads to a file, or something is in the way. -/
theorem leads_or_refuses (fs : FileSystem) (path : Path) :
    fs.locate path = .ok (fs.target path) ∧ fs.Leads path ∨
      ∃ refusal, fs.locate path = .error refusal ∧ Refuses fs path refusal := by
  unfold locate
  by_cases hlong : pathBound ≤ path.text.utf8ByteSize
  · rw [if_pos hlong]
    exact .inr ⟨_, rfl, .pathTooLong hlong⟩
  · have hshort : path.text.utf8ByteSize < pathBound := Nat.lt_of_not_le hlong
    rw [if_neg hlong]
    cases hwalk : fs.walk (fs.start path) path.parts with
    | error refusal =>
      obtain ⟨before, part, rest, hparts, hpasses, hblocks⟩ := walk_eq_error_iff.1 hwalk
      exact .inr ⟨refusal, rfl, .onTheWay hshort hparts hpasses hblocks⟩
    | ok found =>
      obtain ⟨rfl, hpasses⟩ := walk_eq_ok_iff.1 hwalk
      rw [← target]
      by_cases hdirectory : fs.find? (fs.target path) = some .directory
      · refine .inr ⟨.isDirectory, ?_, .isDirectory hshort hpasses hdirectory⟩
        simp only [bind, Except.bind, hdirectory]
        rfl
      · refine .inl ⟨?_, hshort, hpasses, hdirectory⟩
        simp only [bind, Except.bind]
        rfl

/-- Nothing is in the way of a path that leads to a file. -/
theorem Leads.not_refuses (h : fs.Leads path) : ¬ Refuses fs path refusal := by
  intro hrefuses
  cases hrefuses with
  | pathTooLong hlong => exact Nat.not_le_of_lt h.short hlong
  | onTheWay _ hparts hpasses hblocks =>
    have hstops := walk_eq_error_iff.2 ⟨_, _, _, hparts, hpasses, hblocks⟩
    cases hstops.symm.trans (walk_eq_ok_iff.2 ⟨rfl, h.passes⟩)
  | isDirectory _ _ hdirectory => exact h.noDirectory hdirectory

/-- A path can be opened for writing exactly when it leads to something that is no directory. -/
theorem locate_eq_ok_iff : fs.locate path = .ok place ↔ place = fs.target path ∧ fs.Leads path := by
  rcases fs.leads_or_refuses path with ⟨hlocate, hleads⟩ | ⟨refusal, hlocate, hrefuses⟩
  · simp [hlocate, hleads, eq_comm]
  · have hnot : ¬ fs.Leads path := fun hleads => hleads.not_refuses hrefuses
    simp [hlocate, hnot]

/-- What is refused to be located is refused for its reason. -/
theorem refuses_of_locate (h : fs.locate path = .error refusal) : Refuses fs path refusal := by
  rcases fs.leads_or_refuses path with ⟨hlocate, -⟩ | ⟨other, hlocate, hrefuses⟩
  · cases h.symm.trans hlocate
  · cases h.symm.trans hlocate
    exact hrefuses

/-! ## Open files -/

/-- Only what is no directory can be opened. -/
theorem find?_ne_directory_of_locate (h : fs.locate path = .ok place) :
    fs.find? place ≠ some .directory := by
  obtain ⟨rfl, hleads⟩ := locate_eq_ok_iff.1 h
  exact hleads.noDirectory

/-- The root cannot be opened. -/
theorem ne_nil_of_locate (h : fs.locate path = .ok place) : place ≠ [] := by
  rintro rfl
  exact find?_ne_directory_of_locate h fs.find?_root

/-- Opening a file finds its place; a file that takes data is empty then. -/
theorem openFile_eq (h : fs.locate path = .ok place) :
    fs.openFile path =
      .ok (if fs.find? place = some .full then fs else fs.put place (.file ""), place) := by
  rw [openFile, h]
  by_cases hfull : fs.find? place = some .full
  · simp [bind, Except.bind, pure, Except.pure, hfull]
  · simp only [bind, Except.bind, pure, Except.pure, hfull, if_false]

/-- Opening is refused as locating is. -/
theorem openFile_eq_error (h : fs.locate path = .error refusal) :
    fs.openFile path = .error refusal := by
  rw [openFile, h]
  rfl

/-- Opening a file keeps the working directory. -/
theorem workingDirectory_openFile {opened : FileSystem}
    (h : fs.openFile path = .ok (opened, place)) :
    opened.workingDirectory = fs.workingDirectory := by
  obtain ⟨_, -, h⟩ := Attempt.bind_eq_ok_iff.1 h
  split at h <;> cases h <;> rfl

/-- Writing to a file keeps the working directory. -/
theorem workingDirectory_writeFile {written : FileSystem} {text : String}
    (h : fs.writeFile place text = .ok written) :
    written.workingDirectory = fs.workingDirectory := by
  unfold writeFile at h
  split at h <;> cases h
  rfl

end FileSystem

end PackageBuild
