import PackageBuild.Proofs.Telemetry.Normalising
import PackageBuild.Proofs.Text.Numeral

/-!
# The length limit

The length limit of texts is read from the environment.  One grammar decides what is a limit: a
numeral, with blanks around it or without.  Anything else asks for no limit, and is no reason to
fail.

Main results:

- Theorem `limitOf?_eq_some_iff`: which texts ask for which limit.
- Theorem `normalise_eq_cut`: what a limit does to attributes.
- Theorem `limit_grammar`: both, from the text of the variable to the attributes.
-/

namespace PackageBuild.Telemetry

open Text (StrippedTo)
open Text.Numeral (IsNumeral)

variable {e : Environment} {text : String}

/-! ## Reading -/

/-- Without the variable there is no limit. -/
theorem limitOf?_of_unset (h : e.settings.find? limitVariable = none) : limitOf? e = none := by
  rw [limitOf?, Environment.value?, h]
  rfl

/-- The blanks around a limit do not count, and a blank text is no numeral. -/
theorem limitOf?_eq (h : e.settings.find? limitVariable = some text) :
    limitOf? e = Text.Numeral.integer? (Text.stripBlanks text.toList) := by
  rw [limitOf?, Environment.value?, h, Option.map_some, Option.filter_some]
  split
  · rw [Option.bind_some, limitOfText?, Text.strip, String.toList_ofList,
      Text.stripBlanks_stripBlanks]
  · next hblank =>
    have hnil : Text.stripBlanks text.toList = [] := by
      simpa [Text.strip, ← String.toList_inj] using hblank
    rw [hnil]
    rfl

/-- A limit is asked for exactly by a numeral with blanks around it. -/
theorem limitOf?_eq_some_iff {n : Int} : limitOf? e = some n ↔ ∃ text core,
    e.settings.find? limitVariable = some text ∧ StrippedTo text.toList core ∧
      IsNumeral core n := by
  constructor
  · intro h
    cases htext : e.settings.find? limitVariable with
    | none =>
      rw [limitOf?_of_unset htext] at h
      contradiction
    | some text =>
      rw [limitOf?_eq htext, Text.Numeral.integer?_eq_some_iff] at h
      exact ⟨text, _, rfl, Text.strippedTo_stripBlanks _, h⟩
  · rintro ⟨text, core, htext, hcore, hnumeral⟩
    rw [limitOf?_eq htext, hcore.stripBlanks_eq]
    exact Text.Numeral.integer?_eq_some_iff.2 hnumeral

/-- All other texts ask for none. -/
theorem limitOf?_eq_none_iff : limitOf? e = none ↔ ∀ text core n,
    e.settings.find? limitVariable = some text → StrippedTo text.toList core →
      ¬ IsNumeral core n := by
  constructor
  · intro h text core n htext hcore hnumeral
    rw [limitOf?_eq_some_iff.2 ⟨text, core, htext, hcore, hnumeral⟩] at h
    contradiction
  · intro h
    rw [Option.eq_none_iff_forall_ne_some]
    intro n hn
    obtain ⟨text, core, htext, hcore, hnumeral⟩ := limitOf?_eq_some_iff.1 hn
    exact h text core n htext hcore hnumeral

/-- A blank text sets no limit. -/
theorem limitOf?_of_blank (h : e.settings.find? limitVariable = some text)
    (hblank : ∀ c ∈ text.toList, Text.isBlank c = true) : limitOf? e = none := by
  have hnil : StrippedTo text.toList [] := ⟨⟨text.toList, [], by simp, by simpa using hblank⟩,
    by simp, by simp⟩
  rw [limitOf?_eq h, hnil.stripBlanks_eq]
  rfl

/-! ## Cutting -/

/-- A limit cuts the texts of what there is without one, and is no reason to fail. -/
theorem normalise_eq_cut (limit? : Option Int) (attributes : Value) :
    normalise limit? attributes = (normalise none attributes).map
      (OrderedMap.mapValues (Attribute.mapText (cut limit?))) := by
  cases attributes with
  | map entries => exact normalise_eq_shortened limit? entries
  | _ =>
    unfold normalise
    split <;> rfl

/-- The limit of an environment is the number that its variable writes as a numeral between blanks.
There is none where the variable is not set, is blank, or is written in any other way.  Under a
limit that is not positive all texts of the attributes are empty; under a positive one so many
characters of each are left; and nothing else is changed. -/
theorem limit_grammar (e : Environment) (attributes : Value) :
    (∀ n, limitOf? e = some n ↔ ∃ text core, e.settings.find? limitVariable = some text ∧
      StrippedTo text.toList core ∧ IsNumeral core n) ∧
    (e.settings.find? limitVariable = none → limitOf? e = none) ∧
    (∀ text, e.settings.find? limitVariable = some text →
      (∀ c ∈ text.toList, Text.isBlank c = true) ∨
        (∀ core n, StrippedTo text.toList core → ¬ IsNumeral core n) → limitOf? e = none) ∧
    (limitOf? e = none → ∀ s, ofValue (limitOf? e) (.text s) = .ok (.text s)) ∧
    (∀ n, limitOf? e = some n → n ≤ 0 → normalise (limitOf? e) attributes =
      (normalise none attributes).map (OrderedMap.mapValues (.mapText fun _ => ""))) ∧
    ∀ n, limitOf? e = some n → 0 < n → normalise (limitOf? e) attributes =
      (normalise none attributes).map (OrderedMap.mapValues
        (.mapText fun s => String.ofList (s.toList.take n.toNat))) := by
  refine ⟨fun n => limitOf?_eq_some_iff, limitOf?_of_unset, fun text htext h => ?_, fun h s => ?_,
    fun n hn hnonpos => ?_, fun n hn _ => ?_⟩
  · rcases h with hblank | hother
    · exact limitOf?_of_blank htext hblank
    · refine limitOf?_eq_none_iff.2 fun text' core n htext' hcore => ?_
      rw [htext] at htext'
      cases htext'
      exact hother core n hcore
  · rw [h]
    rfl
  · have hcut : cut (some n) = fun _ => "" := funext fun s => cut_of_nonpos hnonpos s
    rw [hn, normalise_eq_cut, hcut]
  · rw [hn]
    exact normalise_eq_cut (some n) attributes

/-- A sign, a leading zero, a low line and a digit of another script, between blanks. -/
theorem limit_grammar_scripts :
    let e := Environment.ofSettings [(limitVariable, "\u2003+0_\u0662\n")]
    limitOf? e = some 2 ∧
    normalise (limitOf? e) (.map [(.text "unit", .text "zlib"), (.text "parts", .int 123)]) =
      .ok (.ofList [("unit", .text "zl"), ("parts", .int 123)]) := by
  intro e
  have hcore : StrippedTo "\u2003+0_\u0662\n".toList ['+', '0', '_', '\u0662'] :=
    Text.stripBlanks_eq_iff.1 (by decide)
  have hrun : Text.Numeral.IsRun ['0', '_', '\u0662'] :=
    Text.Numeral.isRun_lowLine_iff.2 ⟨by decide, Text.Numeral.isRun_singleton_iff.2 (by decide)⟩
  have hnumeral : IsNumeral ['+', '0', '_', '\u0662'] 2 :=
    ⟨_, _, _, .plus, hrun, by decide, rfl, by decide⟩
  obtain ⟨hread, -, -, -, -, hpositive⟩ :=
    limit_grammar e (.map [(.text "unit", .text "zlib"), (.text "parts", .int 123)])
  have hlimit : limitOf? e = some 2 := (hread 2).2 ⟨_, _, rfl, hcore, hnumeral⟩
  exact ⟨hlimit, (hpositive 2 hlimit (by decide)).trans rfl⟩

end PackageBuild.Telemetry
