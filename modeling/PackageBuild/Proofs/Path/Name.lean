import Mathlib.Logic.Relation
import Mathlib.Tactic.ByContra
import PackageBuild.Package.Node
import PackageBuild.Proofs.Text.Pieces

/-!
# Names of paths

The name of a path is the last of its components that is neither empty nor a single dot.  It says
nothing of the way that leads there: slashes may be doubled, and single dots put between them, in
front of the name and behind it.

Main results:

- Theorem `partsOf_append_slash`: a text is cut at any of its slashes.
- Theorem `name_ofChars_eq_iff`: the name is the last component that counts.
- Theorem `Detour.partsOf_eq`: a roundabout way has the same components.
- Theorem `fileName_normalForm`: the file name of a source archive is a normal form of its path.
-/

namespace PackageBuild

namespace Path

variable {s t before piece after name : List Char}

/-! ## Components -/

/-- A component of a text, with what stands in front of it and behind it: slashes are on its two
sides, or the ends of the text, and none is inside. -/
structure Component (s before piece after : List Char) : Prop where
  text : s = before ++ piece ++ after
  front : before = [] ∨ ∃ start, before = start ++ ['/']
  whole : '/' ∉ piece
  back : after = [] ∨ ∃ rest, after = '/' :: rest

/-- A component counts when it is neither empty nor a single dot. -/
def IsProper (piece : List Char) : Prop := piece ≠ [] ∧ piece ≠ ['.']

/-- The last component of a text that counts, or nothing where none does. -/
inductive LastOf (s : List Char) : List Char → Prop
  | nothing (h : ∀ before piece after, Component s before piece after → ¬ IsProper piece) :
      LastOf s []
  | component {before name after : List Char} (h : Component s before name after)
      (hproper : IsProper name)
      (hlast : ∀ before' piece after', Component s before' piece after' → IsProper piece →
        before'.length ≤ before.length) : LastOf s name

/-- A text behind a slash has its components in the whole text as well. -/
theorem Component.behind (h : Component t before piece after) (s : List Char) :
    Component (s ++ '/' :: t) (s ++ '/' :: before) piece after where
  text := by rw [h.text, List.append_assoc, List.append_assoc, List.append_assoc]; rfl
  front := by
    rcases h.front with rfl | ⟨start, rfl⟩
    · exact .inr ⟨s, rfl⟩
    · exact .inr ⟨s ++ '/' :: start, by rw [List.append_assoc, List.cons_append]⟩
  whole := h.whole
  back := h.back

/-! ## Components that count -/

/-- The components that are kept are the proper ones. -/
theorem isPart_iff : isPart piece = true ↔ IsProper piece := by
  simp [isPart, IsProper]

/-- A text is cut at any of its slashes. -/
theorem partsOf_append_slash (s t : List Char) :
    partsOf (s ++ '/' :: t) = partsOf s ++ partsOf t := by
  rw [partsOf, Text.splitOn_eq, List.splitOn, List.splitOnP_append_cons s t (by decide),
    List.filter_append]
  simp only [partsOf, Text.splitOn_eq, List.splitOn]

theorem partsOf_cons_slash (s : List Char) : partsOf ('/' :: s) = partsOf s :=
  partsOf_append_slash [] s

/-- A proper component without slashes is one part. -/
theorem partsOf_of_isProper (hslash : '/' ∉ piece) (h : IsProper piece) :
    partsOf piece = [piece] := by
  rw [partsOf, Text.splitOn_eq, List.splitOn_eq_singleton hslash]
  exact List.filter_cons_of_pos (isPart_iff.2 h)

/-- An empty component or a dot is no part. -/
theorem partsOf_of_not_isProper (h : ¬ IsProper piece) : partsOf piece = [] := by
  rw [IsProper, not_and_or, not_ne_iff, not_ne_iff] at h
  rcases h with rfl | rfl <;> rfl

/-- The components that count in front of a component, itself, and those behind it. -/
theorem Component.partsOf_eq (h : Component s before piece after) :
    partsOf s = partsOf before ++ partsOf piece ++ partsOf after := by
  have hback : partsOf (piece ++ after) = partsOf piece ++ partsOf after := by
    rcases h.back with rfl | ⟨rest, rfl⟩
    · rw [List.append_nil]
      exact (List.append_nil _).symm
    · rw [partsOf_append_slash, partsOf_cons_slash]
  rw [h.text, List.append_assoc, List.append_assoc, ← hback]
  rcases h.front with rfl | ⟨start, rfl⟩
  · rfl
  · rw [List.append_assoc, List.singleton_append, partsOf_append_slash, partsOf_append_slash]
    exact congrArg (· ++ partsOf (piece ++ after)) (List.append_nil _).symm

/-- Where a component counts, the last of them has none that counts behind it. -/
theorem exists_component_of_partsOf_ne_nil (h : partsOf s ≠ []) :
    ∃ before piece after, Component s before piece after ∧ IsProper piece ∧ partsOf after = [] := by
  induction hn : s.length using Nat.strongRecOn generalizing s with
  | ind n ih =>
    by_cases hslash : '/' ∈ s
    · obtain ⟨first, rest, rfl, hfirst⟩ := List.eq_append_cons_of_mem hslash
      by_cases hrest : partsOf rest = []
      · have hproper : IsProper first := by
          by_contra hproper
          rw [partsOf_append_slash, hrest, partsOf_of_not_isProper hproper] at h
          exact h rfl
        refine ⟨[], first, '/' :: rest, ⟨rfl, .inl rfl, hfirst, .inr ⟨rest, rfl⟩⟩, hproper, ?_⟩
        exact (partsOf_cons_slash rest).trans hrest
      · have hshorter : rest.length < n := by
          rw [← hn, List.length_append, List.length_cons]
          omega
        obtain ⟨before, piece, after, hpiece, hproper, hafter⟩ := ih _ hshorter hrest rfl
        exact ⟨_, piece, after, hpiece.behind first, hproper, hafter⟩
    · have hproper : IsProper s := by
        by_contra hproper
        exact h (partsOf_of_not_isProper hproper)
      exact ⟨[], s, [], ⟨(List.append_nil _).symm, .inl rfl, hslash, .inl rfl⟩, hproper, rfl⟩

/-- A slash that does not stand in the front of a text stands behind it. -/
theorem exists_behind_of_append_eq {between rest : List Char} (hslash : '/' ∉ piece)
    (h : piece ++ after = between ++ '/' :: rest) : ∃ gap, after = gap ++ '/' :: rest := by
  rcases List.append_eq_append_iff.1 h with ⟨gap, -, hafter⟩ | ⟨excess, hpiece, hrest⟩
  · exact ⟨gap, hafter⟩
  · cases excess with
    | nil => exact ⟨[], hrest.symm⟩
    | cons c excess =>
      rw [hpiece, ← (List.cons.inj hrest).1] at hslash
      exact absurd (List.mem_append_right _ List.mem_cons_self) hslash

/-- A component that begins behind another one is a component of what stands behind that one. -/
theorem Component.of_lt {before' piece' after' : List Char} (h : Component s before piece after)
    (h' : Component s before' piece' after') (hlt : before.length < before'.length) :
    ∃ between, Component after between piece' after' := by
  rcases h'.front with rfl | ⟨start, rfl⟩
  · exact absurd hlt (Nat.not_lt_zero _)
  · have htext := h.text
    have htext' := h'.text
    rw [List.append_assoc] at htext
    rw [List.append_assoc, List.append_assoc, List.singleton_append] at htext'
    have hle : before.length ≤ start.length := by
      rw [List.length_append, List.length_singleton] at hlt
      omega
    obtain ⟨between, rfl⟩ : before <+: start :=
      List.prefix_of_prefix_length_le ⟨_, htext.symm⟩ ⟨_, htext'.symm⟩ hle
    rw [htext, List.append_assoc] at htext'
    obtain ⟨gap, rfl⟩ := exists_behind_of_append_eq h.whole (List.append_cancel_left htext')
    exact ⟨gap ++ ['/'], by simp, .inr ⟨gap, rfl⟩, h'.whole, h'.back⟩

/-- No component counts where none is kept. -/
theorem Component.not_counts (h : Component s before piece after) (hnone : partsOf s = []) :
    ¬ IsProper piece := by
  intro hproper
  rw [h.partsOf_eq, partsOf_of_isProper h.whole hproper] at hnone
  simp at hnone

/-! ## Names -/

/-- A path without parts has no name. -/
theorem name_ofChars_of_partsOf_nil (h : partsOf s = []) : (ofChars s).name = [] := by
  change (partsOf s).getLast?.getD [] = []
  rw [h]
  rfl

/-- The last proper component is the name. -/
theorem Component.name_eq (h : Component s before piece after) (hproper : IsProper piece)
    (hafter : partsOf after = []) : (ofChars s).name = piece := by
  change (partsOf s).getLast?.getD [] = piece
  rw [h.partsOf_eq, partsOf_of_isProper h.whole hproper, hafter, List.append_nil,
    List.getLast?_concat, Option.getD_some]

/-- The name is the last component that counts. -/
theorem lastOf_name (s : List Char) : LastOf s (ofChars s).name := by
  by_cases hnone : partsOf s = []
  · rw [name_ofChars_of_partsOf_nil hnone]
    exact .nothing fun _ _ _ h => h.not_counts hnone
  · obtain ⟨before, piece, after, h, hproper, hafter⟩ := exists_component_of_partsOf_ne_nil hnone
    rw [h.name_eq hproper hafter]
    refine .component h hproper fun before' piece' after' h' hproper' => ?_
    by_contra hlt
    obtain ⟨between, hbetween⟩ := h.of_lt h' (Nat.lt_of_not_le hlt)
    exact hbetween.not_counts hafter hproper'

/-- There is no other component that is the last one. -/
theorem LastOf.name_eq (h : LastOf s name) : (ofChars s).name = name := by
  cases h with
  | nothing h =>
    refine name_ofChars_of_partsOf_nil ?_
    by_contra hsome
    obtain ⟨before, piece, after, hpiece, hproper, -⟩ := exists_component_of_partsOf_ne_nil hsome
    exact h before piece after hpiece hproper
  | @component before _ after h hproper hlast =>
    refine h.name_eq hproper ?_
    rcases h.back with rfl | ⟨rest, rfl⟩
    · rfl
    · by_contra hsome
      have hrest : partsOf rest ≠ [] := by rwa [partsOf_cons_slash] at hsome
      obtain ⟨between, piece, after, hpiece, hproper', -⟩ :=
        exists_component_of_partsOf_ne_nil hrest
      have hbehind := hpiece.behind (before ++ name)
      rw [← h.text] at hbehind
      have hle := hlast _ piece after hbehind hproper'
      rw [List.length_append, List.length_append, List.length_cons] at hle
      omega

/-- The name of a path is the last component of its text that counts. -/
theorem name_ofChars_eq_iff : (ofChars s).name = name ↔ LastOf s name :=
  ⟨fun h => h ▸ lastOf_name s, LastOf.name_eq⟩

/-- A name is the name of the path that it writes alone. -/
theorem name_ofChars_name (s : List Char) : (ofChars (ofChars s).name).name = (ofChars s).name := by
  rcases name_ofChars s with h | h
  · rw [h]
    rfl
  · obtain ⟨hslash, hproper⟩ := mem_partsOf h
    change (partsOf (ofChars s).name).getLast?.getD [] = _
    rw [partsOf_of_isProper hslash hproper]
    rfl

/-! ## Roundabout ways -/

/-- A text that goes a roundabout way: over a slash twice, over a single dot behind a slash, or over
a slash at the end, with a single dot behind it or without. -/
inductive Detour : List Char → List Char → Prop
  | slash (s t : List Char) : Detour (s ++ '/' :: t) (s ++ '/' :: '/' :: t)
  | dot (s t : List Char) : Detour (s ++ '/' :: t) (s ++ '/' :: '.' :: '/' :: t)
  | slashAtEnd (s : List Char) : Detour s (s ++ ['/'])
  | dotAtEnd (s : List Char) : Detour s (s ++ ['/', '.'])

/-- A roundabout way has the same components. -/
theorem Detour.partsOf_eq (h : Detour s t) : partsOf t = partsOf s := by
  have hdot (s : List Char) : partsOf ('.' :: '/' :: s) = partsOf s := partsOf_append_slash ['.'] s
  cases h with
  | slash s t => rw [partsOf_append_slash, partsOf_append_slash, partsOf_cons_slash]
  | dot s t => rw [partsOf_append_slash, partsOf_append_slash, hdot]
  | slashAtEnd => exact (partsOf_append_slash s []).trans (List.append_nil _)
  | dotAtEnd => exact (partsOf_append_slash s ['.']).trans (List.append_nil _)

/-- Roundabout ways lead to the same name. -/
theorem name_eq_of_detours (h : Relation.ReflTransGen Detour s t) :
    (ofChars t).name = (ofChars s).name := by
  have hparts : partsOf t = partsOf s := by
    induction h with
    | refl => rfl
    | tail _ hdetour ih => rw [hdetour.partsOf_eq, ih]
  exact congrArg (fun parts => parts.getLast?.getD []) hparts

end Path

namespace Node

/-- The node with the source archive at another path. -/
def movedTo (n : Node) (path : String) : Node := { n with source := .text path }

/-- The file name of a node at another path is the name of that path. -/
@[simp] theorem toList_fileName_movedTo (n : Node) (path : String) :
    (n.movedTo path).fileName.toList = (Path.ofChars path.toList).name := by
  rw [fileName, Path.baseName, String.toList_ofList]
  rfl

/-- The file name of a source archive is the last component of its path that is neither empty nor a
single dot, or empty where there is none.  So it has no slash and is no single dot, it is its own
file name, and no roundabout way changes it. -/
theorem fileName_normalForm (n : Node) (path : String) :
    (n.movedTo path).pathFault? = none ∧
    (∀ name, (n.movedTo path).fileName = name ↔ Path.LastOf path.toList name.toList) ∧
    '/' ∉ (n.movedTo path).fileName.toList ∧ (n.movedTo path).fileName ≠ "." ∧
    (n.movedTo (n.movedTo path).fileName).fileName = (n.movedTo path).fileName ∧
    ∀ other : String, Relation.ReflTransGen Path.Detour path.toList other.toList →
      (n.movedTo other).fileName = (n.movedTo path).fileName := by
  refine ⟨rfl, fun name => ?_, ?_, fun hdot => ?_, ?_, fun other h => ?_⟩
  · rw [← String.toList_inj, toList_fileName_movedTo, Path.name_ofChars_eq_iff]
  · rw [toList_fileName_movedTo]
    exact Path.not_slash_mem_name path.toList
  · rw [← String.toList_inj, toList_fileName_movedTo] at hdot
    exact Path.name_ne_dot path.toList hdot
  · rw [← String.toList_inj, toList_fileName_movedTo, toList_fileName_movedTo,
      Path.name_ofChars_name]
  · rw [← String.toList_inj, toList_fileName_movedTo, toList_fileName_movedTo,
      Path.name_eq_of_detours h]

/-- A path over two slashes and a single dot, with a slash and a single dot behind the name. -/
theorem fileName_normalForm_roundabout :
    Relation.ReflTransGen Path.Detour "/srv/zlib.src.rpm".toList "//srv/./zlib.src.rpm/.".toList ∧
    (movedTo ⟨.int 0, .build, .build, .null, .null, .null, .null⟩
      "//srv/./zlib.src.rpm/.").fileName = "zlib.src.rpm" := by
  have hway : Relation.ReflTransGen Path.Detour "/srv/zlib.src.rpm".toList
      "//srv/./zlib.src.rpm/.".toList :=
    ((Relation.ReflTransGen.single (.slash [] "srv/zlib.src.rpm".toList)).tail
      (.dot "//srv".toList "zlib.src.rpm".toList)).tail (.dotAtEnd "//srv/./zlib.src.rpm".toList)
  exact ⟨hway, ((fileName_normalForm _ "/srv/zlib.src.rpm").2.2.2.2.2 _ hway).trans rfl⟩

end Node

end PackageBuild
