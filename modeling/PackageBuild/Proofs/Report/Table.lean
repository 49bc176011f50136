import PackageBuild.Proofs.Graph.Numbering
import PackageBuild.Proofs.Report.Agreement
import PackageBuild.Proofs.Summary.Export

/-!
# Tables for other programs

Other programs read the table of a report with a reader that takes every line break for the end of a
record and that bounds the length of a field.  The writer leaves a lone carriage return without
quotes and knows no bound, so that the fields of the units decide whether every unit is found again.

Main results:

- Theorem `Csv.standard?_encode_iff`: when such a reader finds the rows of a table.
- Theorem `readsBack_encode_iff`: when it finds a record for every unit.
- Theorem `readsBack_written_iff`: the same for the file that was written.
-/

namespace PackageBuild.Summary

namespace Csv

/-- A reader that knows every line break and bounds the fields finds this text. -/
def Readable (text : String) : Prop :=
  Survives .anyBreak text.toList ∧ text.length ≤ fieldLimit

instance (text : String) : Decidable (Readable text) :=
  inferInstanceAs (Decidable (Survives .anyBreak text.toList ∧ text.length ≤ fieldLimit))

/-- When another program finds a table: no field is longer than the bound. -/
theorem standard?_eq_some_iff {text : String} {found : List (List String)} :
    standard? text = some found ↔ records .anyBreak text = found ∧
      ∀ fields ∈ found, ∀ field ∈ fields, field.length ≤ fieldLimit := by
  unfold standard?
  by_cases hlength : ∀ fields ∈ records .anyBreak text, ∀ field ∈ fields,
      field.length ≤ fieldLimit
  · simp only [if_pos hlength, Option.some.injEq]
    constructor
    · rintro rfl
      exact ⟨rfl, hlength⟩
    · exact And.left
  · simp only [if_neg hlength, reduceCtorEq, false_iff]
    rintro ⟨rfl, h⟩
    exact hlength h

/-- The names of the columns are short enough. -/
theorem length_le_of_mem_columnNames : ∀ name ∈ columnNames, name.length ≤ fieldLimit := by
  decide

/-- Such a reader finds the rows of a table exactly when their fields pass. -/
theorem standard?_encode_iff {rows : List Row} :
    standard? (encode rows) = some (columnNames :: rows.map RowOf.columns) ↔
      ∀ row ∈ rows, ∀ field ∈ row.columns, Readable field := by
  rw [standard?_eq_some_iff, records_encode_iff, List.forall_mem_cons, List.forall_mem_map]
  constructor
  · rintro ⟨hsurvives, -, hlength⟩ row hrow field hfield
    exact ⟨hsurvives row hrow field hfield, hlength row hrow field hfield⟩
  · intro h
    exact ⟨fun row hrow field hfield => (h row hrow field hfield).1,
      length_le_of_mem_columnNames, fun row hrow field hfield => (h row hrow field hfield).2⟩

/-- The text of an outcome can be read by other programs. -/
theorem readable_outcome (o : Outcome) : Readable o.text := by
  cases o <;> decide

/-- A row can be read when its package and its blocker can. -/
theorem forall_columns_readable_iff {row : Row} :
    (∀ field ∈ row.columns, Readable field) ↔ Readable row.package ∧ Readable row.blocker := by
  simp [RowOf.columns, readable_outcome]

end Csv

/-! ## The units in a table -/

variable {g : Graph} {p : Progress} {c : Classification} {blockers : Blocking.Blockers}

/-- A record shows a unit with an outcome: the file name of its archive, the outcome, and what holds
it back if it failed or was not built. -/
def ShowsUnit (blockers : Blocking.Blockers) (unit : Outcome × Node) (record : List String) :
    Prop :=
  ∃ blocker, record = [unit.2.fileName, unit.1.text, blocker] ∧
    (unit.1 = .failed ∨ unit.1 = .unbuilt → blockers.find? unit.2.buildUnit = some blocker) ∧
    (unit.1 ≠ .failed → unit.1 ≠ .unbuilt → blocker = "")

/-- A text is a table in which another program finds the column names and then one record of three
fields for every unit of a classification, by outcome and in the order of the members. -/
def ReadsBack (c : Classification) (blockers : Blocking.Blockers) (text : String) : Prop :=
  ∃ (found : List (List String)) (members : Outcome → List Node),
    Csv.standard? text = some (columnNames :: found) ∧
    (columnNames :: found).length = 1 + c.total ∧
    (∀ record ∈ columnNames :: found, record.length = 3) ∧
    (∀ o, c.members o = .ok (members o)) ∧
    List.Forall₂ (ShowsUnit blockers) (Outcome.all.flatMap fun o => (members o).map (o, ·)) found

/-- The columns of the rows, member by member. -/
theorem map_columns_rowBlocks (blockers : Blocking.Blockers) (members : Outcome → List Node) :
    (Outcome.all.flatMap (rowBlock blockers members)).map RowOf.columns =
      (Outcome.all.flatMap fun o => (members o).map (o, ·)).map fun unit =>
        (rowOf "" blockers unit.1 unit.2).columns := by
  simp only [List.map_flatMap, rowBlock, List.map_map]
  rfl

/-- Only one record shows a unit. -/
theorem eq_columns_of_showsUnit {unit : Outcome × Node} {record : List String}
    (h : ShowsUnit blockers unit record) :
    record = (rowOf "" blockers unit.1 unit.2).columns := by
  obtain ⟨blocker, rfl, hblocked, hfree⟩ := h
  obtain ⟨o, n⟩ := unit
  cases o with
  | failed => simp [rowOf, RowOf.columns, Outcome.isBlocked, hblocked (.inl rfl)]
  | unbuilt => simp [rowOf, RowOf.columns, Outcome.isBlocked, hblocked (.inr rfl)]
  | _ => simp [rowOf, RowOf.columns, Outcome.isBlocked, hfree]

/-- The row of a member shows its unit. -/
theorem showsUnit_rowOf {o : Outcome} {n : Node}
    (hblockers : (Blocking.resolve g (Survey.of g p).classification).2 = .ok blockers)
    (hn : n ∈ Survey.membersOf g p o) :
    ShowsUnit blockers (o, n) (rowOf "" blockers o n).columns := by
  refine ⟨_, rfl, fun ho => Report.find?_blocker_of_rowOf ho ?_, fun hfailed hunbuilt => ?_⟩
  · have hunit := Survey.mem_units_membersOf_iff.1 (List.mem_map_of_mem (f := Node.buildUnit) hn)
    rw [Report.mem_keys_blockers hblockers]
    rcases ho with ho | ho
    · exact .inl (hunit.trans (congrArg some ho))
    · exact .inr (hunit.trans (congrArg some ho))
  · cases o with
    | failed => contradiction
    | unbuilt => contradiction
    | _ => rfl

/-- Another program finds a record for every unit exactly when the names of the archives and the
blockers pass. -/
theorem readsBack_encode_iff {rs : List Row}
    (hblockers : (Blocking.resolve g (Survey.of g p).classification).2 = .ok blockers)
    (hrows : rows (Survey.of g p).classification blockers = .ok rs) :
    ReadsBack (Survey.of g p).classification blockers (Csv.encode rs) ↔
      ∀ row ∈ rs, Csv.Readable row.package ∧ Csv.Readable row.blocker := by
  have hpasses : Csv.standard? (Csv.encode rs) = some (columnNames :: rs.map RowOf.columns) ↔
      ∀ row ∈ rs, Csv.Readable row.package ∧ Csv.Readable row.blocker :=
    Csv.standard?_encode_iff.trans
      (forall₂_congr fun _ _ => Csv.forall_columns_readable_iff)
  obtain ⟨members, hmembers, hblocks⟩ := rows_eq_ok_iff.1 hrows
  rw [← hpasses]
  constructor
  · rintro ⟨found, members', hfound, -, -, hmembers', htells⟩
    have hsame : members' = members :=
      funext fun o => Except.ok.inj ((hmembers' o).symm.trans (hmembers o))
    have hequal : found = rs.map RowOf.columns := by
      rw [hblocks, map_columns_rowBlocks, ← hsame, ← List.forall₂_eq_eq_eq,
        List.forall₂_map_right_iff]
      exact htells.flip.imp fun _ _ => eq_columns_of_showsUnit
    rw [hfound, hequal]
  · intro hfound
    refine ⟨rs.map RowOf.columns, members, hfound, ?_, ?_, hmembers, ?_⟩
    · rw [List.length_cons, List.length_map, length_rows hrows, Nat.add_comm]
    · simp only [List.forall_mem_cons, List.forall_mem_map]
      exact ⟨rfl, fun row _ => columns_length row⟩
    · rw [hblocks, map_columns_rowBlocks, List.forall₂_map_right_iff, List.forall₂_same]
      rintro ⟨o, n⟩ hunit
      obtain ⟨o', -, hpair⟩ := List.mem_flatMap.1 hunit
      obtain ⟨n', hn', hpair⟩ := List.mem_map.1 hpair
      cases hpair
      rw [Survey.eq_membersOf (hmembers o)] at hn'
      exact showsUnit_rowOf hblockers hn'

/-! ## The file -/

/-- Another program finds a record for every unit in the file that was written exactly when the
names of the archives and the blockers pass: a text with a carriage return must hold a comma, a
double quote or a line feed as well, and no text may be too long. -/
theorem readsBack_written_iff (hg : g.Typed) (hnumbered : g.Numbered)
    (hsize : g.nodes.length ≤ Graph.widthBound) (p : Progress) :
    ∃ blockers rs, (Blocking.resolve g (Survey.of g p).classification).2 = .ok blockers ∧
      rows (Survey.of g p).classification blockers = .ok rs ∧
      ∀ (files : FileSystem) (path : Path), '\x00' ∉ path.chars →
        ∃ written, Export.write files rs path = .ok written ∧
          ∀ place, written.complete = true → files.locate path = .ok place →
            ∃ text, written.files.find? place = some (.file text) ∧
              (ReadsBack (Survey.of g p).classification blockers text ↔
                ∀ row ∈ rs, Csv.Readable row.package ∧ Csv.Readable row.blocker) := by
  obtain ⟨blockers, rs, hblockers, hrows⟩ :=
    exists_rows hg (hnumbered.exists_predecessors hsize) p
  refine ⟨blockers, rs, hblockers, hrows, fun files path hpath => ?_⟩
  obtain ⟨written, hwrite, hwrote⟩ := Export.exists_write hpath files rs
  exact ⟨written, hwrite, fun place hcomplete hplace =>
    ⟨_, hwrote.find?_eq hcomplete hplace, readsBack_encode_iff hblockers hrows⟩⟩

/-! ## Archives with a carriage return and without -/

/-- A graph with one node, whose source archive has a file name. -/
def archiveGraph (name : String) : Graph :=
  { nodes := [⟨.int 0, .build, .build,
      .record .package [.text "a", .text "", .text "", .text "", .text ""],
      .text ("/srpms/" ++ name), .text "", .text ""⟩] }

/-- The graph has nodes of their shape. -/
theorem archiveGraph_typed (name : String) : (archiveGraph name).Typed := by
  intro n hn
  cases List.mem_singleton.1 hn
  exact Node.typed_plain _ _ _ _ _

/-- The predecessors of each node of the graph are found. -/
theorem archiveGraph_predecessors (name : String) : ∀ n ∈ (archiveGraph name).nodes,
    ∃ nodes, (archiveGraph name).predecessors (.node n) = .ok nodes :=
  Graph.Numbered.exists_predecessors rfl (show 1 ≤ Graph.widthBound by decide)

/-- The rows of a graph and a progress, if they are had. -/
def rowsOf? (g : Graph) (p : Progress) : Option (List Row) :=
  (Blocking.resolve g (Survey.of g p).classification).2.toOption.bind fun blockers =>
    (rows (Survey.of g p).classification blockers).toOption

/-- The rows of a graph and a progress are those of its classification and blockers. -/
theorem eq_of_rowsOf? {rs rs' : List Row} (hcomputed : rowsOf? g p = some rs')
    (hblockers : (Blocking.resolve g (Survey.of g p).classification).2 = .ok blockers)
    (hrows : rows (Survey.of g p).classification blockers = .ok rs) : rs = rs' := by
  rw [rowsOf?, hblockers, Except.toOption, Option.bind_some, hrows] at hcomputed
  exact Option.some.inj hcomputed

/-- A carriage return beside a comma stands between quotes, and the unit is found again. -/
theorem readsBack_written_comma :
    ∃ blockers rs written text,
      (Blocking.resolve (archiveGraph "a\r,b.src.rpm")
        (Survey.of (archiveGraph "a\r,b.src.rpm") {}).classification).2 = .ok blockers ∧
      rows (Survey.of (archiveGraph "a\r,b.src.rpm") {}).classification blockers = .ok rs ∧
      Export.write .fresh rs (.ofText "t.csv") = .ok written ∧
      written.files.find? FileSystem.tablePlace = some (.file text) ∧
      Csv.standard? text = some [columnNames, ["a\r,b.src.rpm", "Unbuilt", ""]] ∧
      ReadsBack (Survey.of (archiveGraph "a\r,b.src.rpm") {}).classification blockers text := by
  obtain ⟨blockers, rs, hblockers, hrows, hfile⟩ :=
    readsBack_written_iff (archiveGraph_typed "a\r,b.src.rpm") rfl (by decide) {}
  have hcomputed : rowsOf? (archiveGraph "a\r,b.src.rpm") {} =
      some [⟨"a\r,b.src.rpm", .unbuilt, ""⟩] := by
    decide +kernel
  obtain rfl := eq_of_rowsOf? hcomputed hblockers hrows
  obtain ⟨written, hwrite, hread⟩ := hfile .fresh (.ofText "t.csv") (by decide)
  obtain ⟨written', hwrite', hcomplete, hfound⟩ := Export.exists_complete_write (by decide)
    FileSystem.locate_tablePlace FileSystem.tablePlace_takes [⟨"a\r,b.src.rpm", .unbuilt, ""⟩]
  cases hwrite'.symm.trans hwrite
  obtain ⟨text, htext, hiff⟩ := hread _ hcomplete FileSystem.locate_tablePlace
  cases htext.symm.trans hfound
  have hpasses : Csv.Readable "a\r,b.src.rpm" ∧ Csv.Readable "" := by decide
  exact ⟨blockers, _, written, _, hblockers, hrows, hwrite, htext, by decide +kernel,
    hiff.2 (by simpa using hpasses)⟩

/-- A carriage return in the name of an archive splits the record of its unit. -/
theorem not_readsBack_carriageReturn :
    ∃ blockers rs written text,
      (Blocking.resolve (archiveGraph "a\rb.src.rpm")
        (Survey.of (archiveGraph "a\rb.src.rpm") {}).classification).2 = .ok blockers ∧
      rows (Survey.of (archiveGraph "a\rb.src.rpm") {}).classification blockers = .ok rs ∧
      Export.write .fresh rs (.ofText "t.csv") = .ok written ∧ written.complete = true ∧
      written.files.find? FileSystem.tablePlace = some (.file text) ∧
      Csv.standard? text = some [columnNames, ["a"], ["b.src.rpm", "Unbuilt", ""]] ∧
      ¬ReadsBack (Survey.of (archiveGraph "a\rb.src.rpm") {}).classification blockers text := by
  obtain ⟨blockers, rs, hblockers, hrows⟩ :=
    exists_rows (archiveGraph_typed "a\rb.src.rpm") (archiveGraph_predecessors _) {}
  have hcomputed : rowsOf? (archiveGraph "a\rb.src.rpm") {} =
      some [⟨"a\rb.src.rpm", .unbuilt, ""⟩] := by
    decide +kernel
  obtain rfl := eq_of_rowsOf? hcomputed hblockers hrows
  obtain ⟨written, hwrite, hcomplete, hfound⟩ := Export.exists_complete_write (by decide)
    FileSystem.locate_tablePlace FileSystem.tablePlace_takes [⟨"a\rb.src.rpm", .unbuilt, ""⟩]
  refine ⟨blockers, _, written, _, hblockers, hrows, hwrite, hcomplete, hfound, by decide +kernel,
    ?_⟩
  rw [readsBack_encode_iff hblockers hrows]
  intro hpasses
  have hsurvives := (hpasses _ List.mem_cons_self).1.1
  exact absurd hsurvives (by decide)

end PackageBuild.Summary
