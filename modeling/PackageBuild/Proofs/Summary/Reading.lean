import Mathlib.Data.List.Nodup
import PackageBuild.Proofs.Summary.Items

/-!
# What a reader finds in a summary

Every line of a summary begins with a front of its own kind, and two different fronts differ before
either of them ends.  Behind its head a summary consists of lists below titles, all titles are
different and none of them looks like an item.  So the items below a title and the text behind a
label are found, whatever the texts of the items and the conflicts.

Main results:

- Theorem `itemsUnder_lists`: in a row of lists the items below a title are those of its list.
- Theorem `summaryOf_eq_lists`: a summary is its head and a row of lists.
- Theorems `itemsUnder_header`, `itemsUnder_binaryTitle`, `itemsUnder_sourceTitle` and
  `itemsUnder_unresolvedHeader`: the items below the titles of a summary.
- Theorems `textsBehind_countLabel` and `textsBehind_unresolvedLabel`: one line begins with the
  label of an outcome or of the unresolved dependencies, and their number follows.
- Theorem `textsBehind_conflictsIgnored`: the note that conflicts do not count stands where there
  are some and the switch is on.
- Theorem `exists_header_iff`: the title of an outcome stands in the summary when its list has
  items.
-/

namespace PackageBuild.Summary

/-! ## Fronts of lines -/

/-- Whether two texts differ before either of them ends. -/
def clash : List Char → List Char → Bool
  | a :: s, b :: t => a ≠ b || clash s t
  | _, _ => false

/-- Texts that clash have no common continuation. -/
theorem append_ne_append_of_clash {s t : List Char} (h : clash s t = true) (u v : List Char) :
    s ++ u ≠ t ++ v := by
  induction s generalizing t with
  | nil => contradiction
  | cons a s ih =>
    cases t with
    | nil => contradiction
    | cons b t =>
      simp only [clash, Bool.or_eq_true, decide_eq_true_eq] at h
      intro heq
      obtain ⟨hfirst, hrest⟩ := List.cons.inj heq
      exact ih (h.resolve_left fun hne => hne hfirst) hrest

/-- What stands behind a front is the rest of the text. -/
theorem textBehind?_eq_some_iff {front text rest : String} :
    textBehind? front text = some rest ↔ text = front ++ rest := by
  rw [textBehind?, Option.map_eq_some_iff]
  constructor
  · rintro ⟨s, hs, rfl⟩
    rw [List.isPrefixOf?_eq_some_iff_append_eq] at hs
    rw [← String.toList_inj, String.toList_append, String.toList_ofList, hs]
  · rintro rfl
    exact ⟨rest.toList, by rw [String.toList_append, isPrefixOf?_append], String.ofList_toList⟩

/-- Nothing is read behind a front that differs from that of the text. -/
theorem textBehind?_append_of_clash {front other : String}
    (h : clash other.toList front.toList = true) (rest : String) :
    textBehind? front (other ++ rest) = none := by
  rw [Option.eq_none_iff_forall_ne_some]
  intro text hfound
  rw [textBehind?_eq_some_iff, ← String.toList_inj, String.toList_append,
    String.toList_append] at hfound
  exact append_ne_append_of_clash h _ _ hfound

/-- The texts behind a label are found part by part. -/
theorem textsBehind_append (label : String) (lines rest : List Line) :
    textsBehind label (lines ++ rest) = textsBehind label lines ++ textsBehind label rest :=
  List.filterMap_append

/-- All lines begin with one of the fronts. -/
def Fronted (fronts : List String) (lines : List Line) : Prop :=
  ∀ line ∈ lines, ∃ front ∈ fronts, ∃ rest, line.text = front ++ rest

/-- A front that differs from those of the lines is the front of none of them. -/
theorem Fronted.textBehind?_eq_none {fronts : List String} {lines : List Line}
    (h : Fronted fronts lines) {front : String}
    (hclash : ∀ other ∈ fronts, clash other.toList front.toList = true) {line : Line}
    (hline : line ∈ lines) : textBehind? front line.text = none := by
  obtain ⟨other, hother, rest, htext⟩ := h line hline
  rw [htext]
  exact textBehind?_append_of_clash (hclash other hother) rest

/-- No line begins with a label that clashes with all fronts. -/
theorem Fronted.textsBehind_eq_nil {fronts : List String} {lines : List Line}
    (h : Fronted fronts lines) {front : String}
    (hclash : ∀ other ∈ fronts, clash other.toList front.toList = true) :
    textsBehind front lines = [] :=
  List.filterMap_eq_nil_iff.2 fun _ hline => h.textBehind?_eq_none hclash hline

/-- Two lists of lines together begin with the fronts of both. -/
theorem Fronted.append {fronts others : List String} {lines rest : List Line}
    (h : Fronted fronts lines) (h' : Fronted others rest) :
    Fronted (fronts ++ others) (lines ++ rest) := by
  intro line hline
  rcases List.mem_append.1 hline with hline | hline
  · obtain ⟨front, hfront, htext⟩ := h line hline
    exact ⟨front, List.mem_append_left _ hfront, htext⟩
  · obtain ⟨front, hfront, htext⟩ := h' line hline
    exact ⟨front, List.mem_append_right _ hfront, htext⟩

/-! ## Lists of items -/

/-- The front of an item. -/
def itemMark : String := "--> "

/-- The items in front are those that were put there, and those behind them. -/
theorem leadingItems_append (level : Int) (texts : List String) (rest : List Line) :
    leadingItems (texts.map (item level) ++ rest) = texts ++ leadingItems rest := by
  induction texts with
  | nil => rfl
  | cons text texts ih =>
    rw [List.map_cons, List.cons_append, leadingItems, itemText?_item, List.cons_append, ih]

/-- A line that is no item ends the items in front. -/
theorem leadingItems_cons_of_not_item {line : Line} (h : itemText? line = none)
    (rest : List Line) : leadingItems (line :: rest) = [] := by
  rw [leadingItems, h]

/-- Lines without the title are passed over. -/
theorem itemsUnder_append_of_not_title {title : String} {lines : List Line}
    (h : ∀ line ∈ lines, line.text ≠ title) (rest : List Line) :
    itemsUnder title (lines ++ rest) = itemsUnder title rest := by
  induction lines with
  | nil => rfl
  | cons line lines ih =>
    rw [List.cons_append, itemsUnder, if_neg (h line List.mem_cons_self)]
    exact ih fun line hline => h line (List.mem_cons_of_mem _ hline)

/-- Without its title nothing is found below it. -/
theorem itemsUnder_eq_nil {title : String} {lines : List Line}
    (h : ∀ line ∈ lines, line.text ≠ title) : itemsUnder title lines = [] := by
  rw [← List.append_nil lines, itemsUnder_append_of_not_title h]
  rfl

/-! ## Lists below titles -/

/-- Items below a title. -/
structure Titled where
  level : Int
  title : String
  names : List String

/-- The lines of a list; a list without items has none. -/
def Titled.lines (l : Titled) : List Line := conflictSection l.level l.title l.names

namespace Titled

variable {l : Titled} {lists : List Titled} {title : String} {line : Line}

/-- A list without names has no lines. -/
theorem lines_eq_nil (h : l.names = []) : l.lines = [] := by
  rw [lines, h]
  rfl

/-- A list with names has its title and an item for every name. -/
theorem lines_eq_cons (h : l.names ≠ []) :
    l.lines = ⟨l.level, l.title⟩ :: l.names.map (item l.level) := by
  rw [lines, conflictSection, if_neg (by simpa using h)]

/-- A line of a list is its title or an item. -/
theorem text_of_mem_lines (h : line ∈ l.lines) :
    line.text = l.title ∨ ∃ text, line.text = itemMark ++ text := by
  by_cases hnames : l.names = []
  · rw [lines_eq_nil hnames] at h
    contradiction
  · rw [lines_eq_cons hnames] at h
    rcases List.mem_cons.1 h with rfl | h
    · exact .inl rfl
    · obtain ⟨text, -, rfl⟩ := List.mem_map.1 h
      exact .inr ⟨text, rfl⟩

/-- The titles of lists are different, and none of them looks like an item. -/
structure WellTitled (lists : List Titled) : Prop where
  distinct : (lists.map Titled.title).Nodup
  not_item : ∀ l ∈ lists, textBehind? itemMark l.title = none

theorem WellTitled.rest (h : WellTitled (l :: lists)) : WellTitled lists where
  distinct := (List.nodup_cons.1 h.distinct).2
  not_item := fun other hother => h.not_item other (List.mem_cons_of_mem _ hother)

/-- A list below another title has no line that consists of this one. -/
theorem ne_title_of_mem_lines (hne : l.title ≠ title) (hitem : textBehind? itemMark title = none)
    (h : line ∈ l.lines) : line.text ≠ title := by
  rintro rfl
  rcases text_of_mem_lines h with htitle | ⟨text, htext⟩
  · exact hne htitle.symm
  · rw [htext, textBehind?_append] at hitem
    contradiction

/-- No items come first in a row of lists. -/
theorem leadingItems_lists (h : WellTitled lists) : leadingItems (lists.flatMap lines) = [] := by
  induction lists with
  | nil => rfl
  | cons first rest ih =>
    rw [List.flatMap_cons]
    by_cases hnames : first.names = []
    · rw [lines_eq_nil hnames, List.nil_append]
      exact ih h.rest
    · rw [lines_eq_cons hnames, List.cons_append]
      have hitem : itemText? ⟨first.level, first.title⟩ = none :=
        h.not_item first List.mem_cons_self
      exact leadingItems_cons_of_not_item hitem _

/-- In a row of lists without a title no line consists of it. -/
theorem ne_title_of_mem_lists (htitle : title ∉ lists.map Titled.title)
    (hitem : textBehind? itemMark title = none) (h : line ∈ lists.flatMap lines) :
    line.text ≠ title := by
  obtain ⟨l, hl, hline⟩ := List.mem_flatMap.1 h
  have hne : l.title ≠ title := fun heq => htitle (heq ▸ List.mem_map_of_mem hl)
  exact ne_title_of_mem_lines hne hitem hline

/-- In a row of lists the items below a title are those of its list. -/
theorem itemsUnder_lists (h : WellTitled lists) (hl : l ∈ lists) :
    itemsUnder l.title (lists.flatMap lines) = l.names := by
  have hitem := h.not_item l hl
  induction lists with
  | nil => contradiction
  | cons first rest ih =>
    obtain ⟨hfirst, -⟩ := List.nodup_cons.1 h.distinct
    rw [List.flatMap_cons]
    rcases List.mem_cons.1 hl with rfl | hl
    · -- The list comes first, and behind it neither its title nor an item comes next.
      have hrest : itemsUnder l.title (rest.flatMap lines) = [] :=
        itemsUnder_eq_nil fun line hline => ne_title_of_mem_lists hfirst hitem hline
      by_cases hnames : l.names = []
      · rw [lines_eq_nil hnames, List.nil_append, hrest, hnames]
      · rw [lines_eq_cons hnames, List.cons_append, itemsUnder, if_pos rfl, leadingItems_append,
          leadingItems_lists h.rest, List.append_nil]
    · have hne : first.title ≠ l.title := fun heq => hfirst (heq ▸ List.mem_map_of_mem hl)
      rw [itemsUnder_append_of_not_title fun line hline => ne_title_of_mem_lines hne hitem hline]
      exact ih h.rest hl

/-- In a row of lists a title stands when its list has items. -/
theorem exists_title_iff (h : WellTitled lists) (hl : l ∈ lists) :
    (∃ line ∈ lists.flatMap lines, line.text = l.title) ↔ l.names ≠ [] := by
  constructor
  · rintro ⟨line, hline, htitle⟩ hnames
    obtain ⟨other, hother, hline⟩ := List.mem_flatMap.1 hline
    have heq : other.title = l.title := by
      by_contra hne
      exact ne_title_of_mem_lines hne (h.not_item l hl) hline htitle
    cases List.inj_on_of_nodup_map h.distinct hother hl heq
    rw [lines_eq_nil hnames] at hline
    contradiction
  · intro hnames
    refine ⟨⟨l.level, l.title⟩, List.mem_flatMap.2 ⟨l, hl, ?_⟩, rfl⟩
    rw [lines_eq_cons hnames]
    exact List.mem_cons_self

/-- The lines of lists begin with the mark of an item or with a title. -/
theorem fronted_lists (lists : List Titled) :
    Fronted (itemMark :: lists.map Titled.title) (lists.flatMap lines) := by
  intro line hline
  obtain ⟨l, hl, hline⟩ := List.mem_flatMap.1 hline
  rcases text_of_mem_lines hline with htitle | ⟨text, htext⟩
  · refine ⟨l.title, List.mem_cons_of_mem _ (List.mem_map_of_mem hl), "", ?_⟩
    rw [htitle, String.append_empty]
  · exact ⟨itemMark, List.mem_cons_self, text, htext⟩

end Titled

/-! ## The lists of a summary -/

/-- The title of the binary packages with the name of one of the toolchain. -/
def binaryTitle : String := "RPM conflicts with toolchain: "

/-- The title of the source packages with the name of one of the toolchain. -/
def sourceTitle : String := "SRPM conflicts with toolchain: "

/-- The titles of a summary. -/
def titles : List String :=
  binaryTitle :: sourceTitle :: (Outcome.all.map header ++ [unresolvedHeader])

/-- The labels of the numbers of conflicts. -/
def conflictLabels : List String :=
  ["Number of toolchain RPM conflicts: ", "Number of toolchain SRPM conflicts: "]

/-- The labels of the counts. -/
def countLabels : List String := unresolvedLabel :: Outcome.all.map countLabel

section Summaries

variable (c : Classification) (options : Options) (texts : Outcome → List String) (o : Outcome)

/-- The level of the lines about conflicts. -/
def conflictLevel : Int := if options.allowRebuilds then Log.info else Log.error

/-- The lists of a summary in their order. -/
def titledLists : List Titled :=
  ⟨conflictLevel options, binaryTitle, options.binaryConflicts⟩ ::
    ⟨conflictLevel options, sourceTitle, options.sourceConflicts⟩ ::
      ((Outcome.all.map fun o => ⟨Log.info, header o, texts o⟩) ++
        [⟨Log.info, unresolvedHeader, c.unresolved⟩])

/-- Whether there are conflicts. -/
def hasConflicts : Bool := !(options.binaryConflicts.isEmpty && options.sourceConflicts.isEmpty)

/-- The note that conflicts do not count. -/
def noteLines : List Line :=
  if hasConflicts options && options.allowRebuilds then [news conflictsIgnored] else []

/-- The numbers of conflicts. -/
def numberLines : List Line :=
  if hasConflicts options then
    [⟨conflictLevel options, "Number of toolchain RPM conflicts: " ++
        Text.naturalText options.binaryConflicts.length⟩,
      ⟨conflictLevel options, "Number of toolchain SRPM conflicts: " ++
        Text.naturalText options.sourceConflicts.length⟩]
  else []

/-- The lines of a summary in front of its lists. -/
def headLines : List Line := topLines c ++ (noteLines options ++ numberLines options)

/-- The lines about conflicts: the note, the numbers and the two lists. -/
theorem conflictLines_eq : conflictLines options = noteLines options ++ numberLines options ++
    conflictSection (conflictLevel options) binaryTitle options.binaryConflicts ++
      conflictSection (conflictLevel options) sourceTitle options.sourceConflicts := by
  obtain ⟨binary, source, allow⟩ := options
  cases binary <;> cases source <;> cases allow <;> rfl

/-- A summary is its head and a row of lists. -/
theorem summaryOf_eq_lists : summaryOf c options texts =
    headLines c options ++ (titledLists c options texts).flatMap Titled.lines := by
  have hlists : (titledLists c options texts).flatMap Titled.lines =
      conflictSection (conflictLevel options) binaryTitle options.binaryConflicts ++
        (conflictSection (conflictLevel options) sourceTitle options.sourceConflicts ++
          (Outcome.all.flatMap (listed texts) ++ unresolvedLines c)) := by
    rw [titledLists, List.flatMap_cons, List.flatMap_cons, List.flatMap_append, List.flatMap_map,
      List.flatMap_singleton]
    rfl
  simp only [summaryOf, topLines, headLines, conflictLines_eq, hlists, List.append_assoc]

/-- The lists of a summary have different titles. -/
theorem wellTitled_titledLists : Titled.WellTitled (titledLists c options texts) where
  distinct := by
    change titles.Nodup
    decide
  not_item := by
    have htitles : ∀ title ∈ titles, textBehind? itemMark title = none := by decide
    intro l hl
    exact htitles l.title (List.mem_map_of_mem (f := Titled.title) hl)

/-- Every outcome has its list in the summary. -/
theorem mem_titledLists_header : ⟨Log.info, header o, texts o⟩ ∈ titledLists c options texts := by
  refine List.mem_cons_of_mem _ (List.mem_cons_of_mem _ (List.mem_append_left _ ?_))
  exact List.mem_map_of_mem (f := fun o => Titled.mk Log.info (header o) (texts o))
    (Outcome.mem_all o)

/-! ## The head of a summary -/

/-- The lines of the banner begin with themselves. -/
theorem fronted_banner : Fronted banner (banner.map news) := by
  intro line hline
  obtain ⟨text, htext, rfl⟩ := List.mem_map.1 hline
  exact ⟨text, htext, "", (String.append_empty).symm⟩

/-- The lines with the counts begin with their labels. -/
theorem fronted_countLines : Fronted countLabels (countLines c) := by
  intro line hline
  rw [countLines, Classification.counts, List.map_map, List.mem_append, List.mem_map] at hline
  rcases hline with ⟨o, ho, rfl⟩ | hline
  · exact ⟨countLabel o, List.mem_cons_of_mem _ (List.mem_map_of_mem ho), _, rfl⟩
  · rw [List.mem_singleton.1 hline]
    exact ⟨unresolvedLabel, List.mem_cons_self, _, rfl⟩

/-- The note is the only line of its kind. -/
theorem fronted_noteLines : Fronted [conflictsIgnored] (noteLines options) := by
  intro line hline
  unfold noteLines at hline
  split at hline
  · rw [List.mem_singleton.1 hline]
    exact ⟨conflictsIgnored, List.mem_cons_self, "", (String.append_empty).symm⟩
  · contradiction

/-- The lines with the numbers of conflicts begin with their labels. -/
theorem fronted_numberLines : Fronted conflictLabels (numberLines options) := by
  intro line hline
  unfold numberLines at hline
  split at hline
  · simp only [List.mem_cons, List.not_mem_nil, or_false] at hline
    rcases hline with rfl | rfl
    · exact ⟨_, List.mem_cons_self, _, rfl⟩
    · exact ⟨_, List.mem_cons_of_mem _ List.mem_cons_self, _, rfl⟩
  · contradiction

/-- The fronts of all lines above the lists. -/
theorem fronted_headLines :
    Fronted (banner ++ countLabels ++ ([conflictsIgnored] ++ conflictLabels))
    (headLines c options) :=
  (fronted_banner.append (fronted_countLines c)).append
    ((fronted_noteLines options).append (fronted_numberLines options))

/-- No title is confused with a line above the lists. -/
theorem clash_titles : ∀ title ∈ titles,
    ∀ front ∈ banner ++ countLabels ++ ([conflictsIgnored] ++ conflictLabels),
      clash front.toList title.toList = true := by
  decide +kernel

/-- In front of the lists no line is a title. -/
theorem ne_title_of_mem_headLines {title : String} (htitle : title ∈ titles) {line : Line}
    (h : line ∈ headLines c options) : line.text ≠ title := by
  intro heq
  have hnone := (fronted_headLines c options).textBehind?_eq_none (clash_titles title htitle) h
  have hfound := textBehind?_append title ""
  rw [heq] at hnone
  rw [String.append_empty, hnone] at hfound
  contradiction

/-! ## Items below titles -/

/-- The items below a title of a summary are those of its list. -/
theorem itemsUnder_summaryOf {l : Titled} (hl : l ∈ titledLists c options texts) :
    itemsUnder l.title (summaryOf c options texts) = l.names := by
  have htitle : l.title ∈ titles := List.mem_map_of_mem (f := Titled.title) hl
  rw [summaryOf_eq_lists, itemsUnder_append_of_not_title
    fun line hline => ne_title_of_mem_headLines c options htitle hline]
  exact Titled.itemsUnder_lists (wellTitled_titledLists c options texts) hl

/-- The items below the title of an outcome are those of its list. -/
theorem itemsUnder_header : itemsUnder (header o) (summaryOf c options texts) = texts o :=
  itemsUnder_summaryOf c options texts (mem_titledLists_header c options texts o)

/-- The binary conflicts are found below their title. -/
theorem itemsUnder_binaryTitle :
    itemsUnder binaryTitle (summaryOf c options texts) = options.binaryConflicts :=
  itemsUnder_summaryOf c options texts List.mem_cons_self

/-- The source conflicts are found below their title. -/
theorem itemsUnder_sourceTitle :
    itemsUnder sourceTitle (summaryOf c options texts) = options.sourceConflicts :=
  itemsUnder_summaryOf c options texts (List.mem_cons_of_mem _ List.mem_cons_self)

/-- The unresolved dependencies are found below their title. -/
theorem itemsUnder_unresolvedHeader :
    itemsUnder unresolvedHeader (summaryOf c options texts) = c.unresolved :=
  itemsUnder_summaryOf (l := ⟨Log.info, unresolvedHeader, c.unresolved⟩) c options texts
    (List.mem_cons_of_mem _ (List.mem_cons_of_mem _ (List.mem_append_right _ List.mem_cons_self)))

/-- The title of an outcome stands in the summary when its list has items. -/
theorem exists_header_iff :
    (∃ line ∈ summaryOf c options texts, line.text = header o) ↔ texts o ≠ [] := by
  have hmem := mem_titledLists_header c options texts o
  have hlists := Titled.exists_title_iff (wellTitled_titledLists c options texts) hmem
  rw [← hlists, summaryOf_eq_lists]
  constructor
  · rintro ⟨line, hline, htitle⟩
    have hnot : line ∉ headLines c options := fun h =>
      ne_title_of_mem_headLines c options (List.mem_map_of_mem (f := Titled.title) hmem) h htitle
    exact ⟨line, (List.mem_append.1 hline).resolve_left hnot, htitle⟩
  · rintro ⟨line, hline, htitle⟩
    exact ⟨line, List.mem_append_right _ hline, htitle⟩

/-! ## Texts behind labels -/

/-- The label of an outcome is confused with no other line. -/
theorem clash_countLabel : ∀ front ∈ banner ++ ([conflictsIgnored] ++ conflictLabels) ++
    (itemMark :: titles), clash front.toList (countLabel o).toList = true := by
  cases o <;> decide

theorem clash_unresolvedLabel : clash unresolvedLabel.toList (countLabel o).toList = true := by
  cases o <;> decide

/-- The label of an outcome is not confused with that of the unresolved dependencies. -/
theorem clash_countLabel_unresolved :
    clash (countLabel o).toList unresolvedLabel.toList = true := by
  cases o <;> decide

/-- The label of the unresolved dependencies is confused with no other line. -/
theorem clash_front_unresolved : ∀ front ∈ banner ++ ([conflictsIgnored] ++ conflictLabels) ++
    (itemMark :: titles), clash front.toList unresolvedLabel.toList = true := by
  decide +kernel

/-- The labels of different outcomes are not confused. -/
theorem clash_countLabel_of_ne {o other : Outcome} (h : other ≠ o) :
    clash (countLabel other).toList (countLabel o).toList = true := by
  revert h
  cases o <;> cases other <;> decide

/-- The note is confused with no other line. -/
theorem clash_conflictsIgnored : ∀ front ∈ banner ++ countLabels ++ conflictLabels ++
    (itemMark :: titles), clash front.toList conflictsIgnored.toList = true := by
  decide +kernel

/-- Among the lines with the counts, one has the number of an outcome. -/
theorem textsBehind_countLines :
    textsBehind (countLabel o) (countLines c) = [Text.naturalText (c.count o)] := by
  have hcount (other : Outcome) :
      textBehind? (countLabel o) (countLabel other ++ Text.naturalText (c.count other)) =
        if other = o then some (Text.naturalText (c.count o)) else none := by
    by_cases heq : other = o
    · rw [if_pos heq, heq, textBehind?_append]
    · rw [if_neg heq, textBehind?_append_of_clash (clash_countLabel_of_ne heq)]
  have hunresolved : textsBehind (countLabel o)
      [news (unresolvedLabel ++ Text.naturalText c.unresolved.length)] = [] := by
    rw [textsBehind, List.filterMap_cons_none, List.filterMap_nil]
    exact textBehind?_append_of_clash (clash_unresolvedLabel o) _
  have hcounts : textsBehind (countLabel o) (Outcome.all.map fun other =>
      news (countLabel other ++ Text.naturalText (c.count other))) =
        [Text.naturalText (c.count o)] := by
    rw [textsBehind, List.filterMap_map]
    refine (List.filterMap_congr fun other _ => hcount other).trans ?_
    cases o <;> rfl
  rw [countLines, Classification.counts, List.map_map, textsBehind_append, hunresolved,
    List.append_nil]
  exact hcounts

/-- The line with the number of unresolved dependencies is the one that begins with their label. -/
theorem textsBehind_unresolvedLabel_countLines :
    textsBehind unresolvedLabel (countLines c) = [Text.naturalText c.unresolved.length] := by
  have hunresolved : textsBehind unresolvedLabel
      [news (unresolvedLabel ++ Text.naturalText c.unresolved.length)] =
        [Text.naturalText c.unresolved.length] := by
    rw [textsBehind, List.filterMap_cons_some, List.filterMap_nil]
    exact textBehind?_append unresolvedLabel _
  rw [countLines, textsBehind_append, hunresolved, List.append_left_eq_self, textsBehind,
    List.filterMap_eq_nil_iff]
  refine List.forall_mem_map.2 fun counted _ => ?_
  exact textBehind?_append_of_clash (clash_countLabel_unresolved counted.1) _

/-- What stands behind a label that no other part of a summary begins with stands in the lines with
the counts. -/
theorem textsBehind_summaryOf {label : String}
    (hclash : ∀ front ∈ banner ++ ([conflictsIgnored] ++ conflictLabels) ++ (itemMark :: titles),
      clash front.toList label.toList = true) :
    textsBehind label (summaryOf c options texts) = textsBehind label (countLines c) := by
  have hbanner : textsBehind label (banner.map news) = [] :=
    fronted_banner.textsBehind_eq_nil fun front hfront =>
      hclash front (List.mem_append_left _ (List.mem_append_left _ hfront))
  have hconflicts : textsBehind label (noteLines options ++ numberLines options) = [] :=
    ((fronted_noteLines options).append (fronted_numberLines options)).textsBehind_eq_nil
      fun front hfront => hclash front (List.mem_append_left _ (List.mem_append_right _ hfront))
  have hlists : textsBehind label ((titledLists c options texts).flatMap Titled.lines) = [] :=
    (Titled.fronted_lists (titledLists c options texts)).textsBehind_eq_nil
      fun front hfront => hclash front (List.mem_append_right _ hfront)
  rw [summaryOf_eq_lists, headLines, topLines, textsBehind_append, textsBehind_append,
    textsBehind_append, hbanner, hconflicts, hlists, List.nil_append, List.append_nil,
    List.append_nil]

/-- One line begins with the label of an outcome, and its number follows. -/
theorem textsBehind_countLabel :
    textsBehind (countLabel o) (summaryOf c options texts) = [Text.naturalText (c.count o)] := by
  rw [textsBehind_summaryOf _ _ _ (clash_countLabel o), textsBehind_countLines]

/-- One line begins with the label of the unresolved dependencies, and their number follows. -/
theorem textsBehind_unresolvedLabel :
    textsBehind unresolvedLabel (summaryOf c options texts) =
      [Text.naturalText c.unresolved.length] := by
  rw [textsBehind_summaryOf _ _ _ clash_front_unresolved, textsBehind_unresolvedLabel_countLines]

/-- The note that conflicts do not count stands where there are some and the switch is on. -/
theorem textsBehind_conflictsIgnored :
    textsBehind conflictsIgnored (summaryOf c options texts) =
      if hasConflicts options && options.allowRebuilds then [""] else [] := by
  have hclash := clash_conflictsIgnored
  have htop : textsBehind conflictsIgnored (topLines c) = [] :=
    (fronted_banner.append (fronted_countLines c)).textsBehind_eq_nil fun front hfront =>
      hclash front (List.mem_append_left _ (List.mem_append_left _ hfront))
  have hnumbers : textsBehind conflictsIgnored (numberLines options) = [] :=
    (fronted_numberLines options).textsBehind_eq_nil fun front hfront =>
      hclash front (List.mem_append_left _ (List.mem_append_right _ hfront))
  have hlists : textsBehind conflictsIgnored
      ((titledLists c options texts).flatMap Titled.lines) = [] :=
    (Titled.fronted_lists (titledLists c options texts)).textsBehind_eq_nil
      fun front hfront => hclash front (List.mem_append_right _ hfront)
  rw [summaryOf_eq_lists, headLines, textsBehind_append, textsBehind_append, textsBehind_append,
    htop, hnumbers, hlists, noteLines]
  split
  · have hnote := textBehind?_append conflictsIgnored ""
    rw [String.append_empty] at hnote
    simp [textsBehind, news, hnote]
  · rfl

end Summaries

end PackageBuild.Summary
