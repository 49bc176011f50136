import Mathlib.Data.List.Induction
import Mathlib.Data.List.Infix
import Mathlib.Data.List.TakeWhile
import Mathlib.Data.Nat.Digits.Defs
import PackageBuild.Text.Blank
import PackageBuild.Text.Numeral

/-!
# The grammar of numerals

A numeral is an optional sign and a run of decimal digits of any script, in which single low lines
may stand between digits.  The reader of numerals takes exactly these, and gives the number that
they write.

Main results:

- Theorem `stripBlanks_eq_iff`: what is left of a text without the blanks at its ends.
- Theorem `digits?_eq_some_iff`: the reader of digits takes exactly the runs of digits.
- Theorem `integer?_eq_some_iff`: the reader of numerals takes exactly the numerals.
-/

namespace PackageBuild.Text

/-! ## Blanks at the ends -/

/-- What is left of a text when the blanks at its ends are taken away, as many as there are. -/
structure StrippedTo (s core : List Char) : Prop where
  blanks : ∃ before after, s = before ++ core ++ after ∧ ∀ c ∈ before ++ after, isBlank c = true
  front : ∀ c ∈ core.head?, isBlank c = false
  back : ∀ c ∈ core.getLast?, isBlank c = false

variable {s core : List Char}

/-- Nothing is dropped when the first character stays. -/
theorem dropWhile_of_head {p : Char → Bool} (h : ∀ c ∈ s.head?, p c = false) :
    s.dropWhile p = s := by
  cases s with
  | nil => rfl
  | cons c s => rw [List.dropWhile_cons_of_neg (by simp [h c rfl])]

/-- What is left does not begin with a character to drop. -/
theorem head_dropWhile {p : Char → Bool} : ∀ c ∈ (s.dropWhile p).head?, p c = false := by
  intro c hc
  have hnot := List.head?_dropWhile_not p s
  rw [Option.mem_def.1 hc] at hnot
  simpa using hnot

/-- Stripping leaves the core between blanks. -/
theorem strippedTo_stripBlanks (s : List Char) : StrippedTo s (stripBlanks s) where
  blanks := by
    refine ⟨s.takeWhile isBlank, ((s.dropWhile isBlank).reverse.takeWhile isBlank).reverse, ?_, ?_⟩
    · rw [stripBlanks, dropTrailingBlanks, List.append_assoc, ← List.reverse_append,
        List.takeWhile_append_dropWhile, List.reverse_reverse, List.takeWhile_append_dropWhile]
    · intro c hc
      rcases List.mem_append.1 hc with hc | hc
      · exact List.mem_takeWhile_imp hc
      · exact List.mem_takeWhile_imp (List.mem_reverse.1 hc)
  front := by
    have hfront := dropWhile_dropTrailingBlanks _ (dropWhile_dropWhile isBlank s)
    rw [stripBlanks, ← hfront]
    exact head_dropWhile
  back := by
    rw [stripBlanks, dropTrailingBlanks, List.getLast?_reverse]
    exact head_dropWhile

/-- The core between blanks is unique. -/
theorem StrippedTo.stripBlanks_eq (h : StrippedTo s core) : stripBlanks s = core := by
  obtain ⟨before, after, rfl, hblank⟩ := h.blanks
  obtain ⟨hbefore, hafter⟩ := List.forall_mem_append.1 hblank
  rw [stripBlanks, List.append_assoc, List.dropWhile_append_of_pos hbefore]
  cases hcore : core with
  | nil =>
    rw [List.nil_append, List.dropWhile_eq_nil_iff.2 hafter]
    rfl
  | cons c rest =>
    rw [← hcore]
    have hfront : (core ++ after).dropWhile isBlank = core ++ after :=
      dropWhile_of_head fun d hd => h.front d (by rw [hcore] at hd ⊢; exact hd)
    have hback : core.reverse.dropWhile isBlank = core.reverse :=
      dropWhile_of_head fun d hd => h.back d (by rwa [List.head?_reverse] at hd)
    rw [hfront, dropTrailingBlanks, List.reverse_append,
      List.dropWhile_append_of_pos fun d hd => hafter d (List.mem_reverse.1 hd), hback,
      List.reverse_reverse]

/-- What is left of a text without the blanks at its ends. -/
theorem stripBlanks_eq_iff : stripBlanks s = core ↔ StrippedTo s core :=
  ⟨fun h => h ▸ strippedTo_stripBlanks s, StrippedTo.stripBlanks_eq⟩

namespace Numeral

/-! ## Runs of digits -/

/-- Digits with single low lines between them, where there are any. -/
structure IsRun (s : List Char) : Prop where
  ne_nil : s ≠ []
  characters : ∀ c ∈ s, isDigit c = true ∨ c = '_'
  front : s.head? ≠ some '_'
  back : s.getLast? ≠ some '_'
  single : ¬ ['_', '_'] <:+: s

/-- The values of the digits of a run. -/
def digitValues (s : List Char) : List Nat := s.filterMap digitValue?

variable {c next : Char} {s rest : List Char}

theorem digitValue?_lowLine : digitValue? '_' = none := by decide

theorem ne_lowLine_of_isDigit (h : isDigit c = true) : c ≠ '_' := by
  rintro rfl
  rw [isDigit, digitValue?_lowLine] at h
  contradiction

/-- A run begins with a digit. -/
theorem IsRun.isDigit_head (h : IsRun (c :: s)) : isDigit c = true := by
  rcases h.characters c List.mem_cons_self with hc | rfl
  · exact hc
  · exact absurd rfl h.front

/-- A single character is a run when it is a digit. -/
theorem isRun_singleton_iff : IsRun [c] ↔ isDigit c = true := by
  refine ⟨IsRun.isDigit_head, fun h => ?_⟩
  have hne := ne_lowLine_of_isDigit h
  exact ⟨by simp, by simp [h], by simpa using hne, by simpa using hne,
    by simp [List.infix_cons_iff]⟩

/-- Behind a digit a run may go on with a digit. -/
theorem isRun_cons_cons_iff (hnext : next ≠ '_') :
    IsRun (c :: next :: rest) ↔ isDigit c = true ∧ IsRun (next :: rest) := by
  constructor
  · intro h
    refine ⟨h.isDigit_head, by simp, fun d hd => h.characters d (List.mem_cons_of_mem c hd),
      by simpa using hnext, ?_, fun hdouble => h.single (List.infix_cons hdouble)⟩
    have hback := h.back
    rwa [List.getLast?_cons_cons] at hback
  · rintro ⟨hc, h⟩
    have hne := ne_lowLine_of_isDigit hc
    refine ⟨by simp, List.forall_mem_cons.2 ⟨.inl hc, h.characters⟩, by simpa using hne, ?_,
      fun hdouble => ?_⟩
    · rw [List.getLast?_cons_cons]
      exact h.back
    · rcases List.infix_cons_iff.1 hdouble with hfront | hrest
      · exact hne (List.cons_prefix_cons.1 hfront).1.symm
      · exact h.single hrest

/-- Behind a digit a run may go on with a low line, if another digit follows. -/
theorem isRun_lowLine_iff : IsRun (c :: '_' :: rest) ↔ isDigit c = true ∧ IsRun rest := by
  constructor
  · intro h
    have hrest : rest ≠ [] := by
      rintro rfl
      exact h.back rfl
    obtain ⟨next, more, rfl⟩ := List.exists_cons_of_ne_nil hrest
    have hsingle : next ≠ '_' := by
      rintro rfl
      exact h.single ⟨[c], more, rfl⟩
    have hback := h.back
    rw [List.getLast?_cons_cons, List.getLast?_cons_cons] at hback
    exact ⟨h.isDigit_head, hrest,
      fun d hd => h.characters d (List.mem_cons_of_mem c (List.mem_cons_of_mem _ hd)),
      by simpa using hsingle, hback,
      fun hdouble => h.single (List.infix_cons (List.infix_cons hdouble))⟩
  · rintro ⟨hc, h⟩
    have hne := ne_lowLine_of_isDigit hc
    obtain ⟨next, more, rfl⟩ := List.exists_cons_of_ne_nil h.ne_nil
    have hnext := ne_lowLine_of_isDigit h.isDigit_head
    refine ⟨by simp,
      List.forall_mem_cons.2 ⟨.inl hc, List.forall_mem_cons.2 ⟨.inr rfl, h.characters⟩⟩,
      by simpa using hne, ?_, fun hdouble => ?_⟩
    · rw [List.getLast?_cons_cons, List.getLast?_cons_cons]
      exact h.back
    · rcases List.infix_cons_iff.1 hdouble with hfront | hrest
      · exact hne (List.cons_prefix_cons.1 hfront).1.symm
      · rcases List.infix_cons_iff.1 hrest with hfront | hrest
        · exact hnext (List.cons_prefix_cons.1 (List.cons_prefix_cons.1 hfront).2).1.symm
        · exact h.single hrest

/-- A digit is read in front of what is read behind it. -/
theorem bind_digits?_eq_some_iff {ds : List Nat}
    (h : ∀ {ds}, digits? rest = some ds ↔ IsRun rest ∧ digitValues rest = ds) :
    ((digitValue? c).bind fun d => (digits? rest).map (d :: ·)) = some ds ↔
      (isDigit c = true ∧ IsRun rest) ∧ digitValues (c :: rest) = ds := by
  cases hc : digitValue? c with
  | none => simp [isDigit, hc]
  | some d =>
    simp only [Option.bind_some, Option.map_eq_some_iff, h, isDigit, hc, Option.isSome_some,
      true_and, digitValues, List.filterMap_cons_some hc]
    constructor
    · rintro ⟨_, ⟨hrun, rfl⟩, rfl⟩
      exact ⟨hrun, rfl⟩
    · rintro ⟨hrun, rfl⟩
      exact ⟨_, ⟨hrun, rfl⟩, rfl⟩

/-- The reader of digits takes exactly the runs of digits, and gives their values. -/
theorem digits?_eq_some_iff {ds : List Nat} :
    digits? s = some ds ↔ IsRun s ∧ digitValues s = ds := by
  fun_induction digits? s generalizing ds with
  | case1 =>
    constructor
    · intro h
      contradiction
    · rintro ⟨h, -⟩
      exact absurd rfl h.ne_nil
  | case2 c =>
    rw [isRun_singleton_iff, isDigit, digitValues]
    cases hc : digitValue? c <;> simp [hc]
  | case3 c rest ih =>
    have hvalues : digitValues (c :: '_' :: rest) = digitValues (c :: rest) := by
      simp [digitValues, List.filterMap_cons, digitValue?_lowLine]
    rw [isRun_lowLine_iff, hvalues]
    exact bind_digits?_eq_some_iff ih
  | case4 c next rest hnext ih =>
    rw [isRun_cons_cons_iff hnext]
    exact bind_digits?_eq_some_iff ih

/-! ## Numbers -/

/-- The digits of a number stand with the last one behind all others. -/
theorem ofDigits_eq (ds : List Nat) : ofDigits ds = Nat.ofDigits 10 ds.reverse := by
  induction ds using List.reverseRecOn with
  | nil => rfl
  | append_singleton ds d ih =>
    rw [ofDigits, List.foldl_append, ← ofDigits, ih, List.reverse_append, List.reverse_singleton,
      List.singleton_append, Nat.ofDigits_cons, List.foldl_cons, List.foldl_nil, Nat.add_comm]

/-- The signs of numerals, each with its unit. -/
inductive IsSign : List Char → Int → Prop
  | none : IsSign [] 1
  | plus : IsSign ['+'] 1
  | minus : IsSign ['-'] (-1)

/-- A sign and a run of at most 4300 digits, which write a number. -/
def IsNumeral (s : List Char) (n : Int) : Prop :=
  ∃ sign unit run, IsSign sign unit ∧ IsRun run ∧ (digitValues run).length ≤ 4300 ∧
    s = sign ++ run ∧ n = unit * (Nat.ofDigits 10 (digitValues run).reverse : Nat)

/-- A text writes a number when it is a run of at most 4300 digits. -/
theorem natural?_eq_some_iff {n : Nat} :
    natural? s = some n ↔ IsRun s ∧ (digitValues s).length ≤ 4300 ∧
      n = Nat.ofDigits 10 (digitValues s).reverse := by
  rw [natural?, Option.bind_eq_some_iff]
  constructor
  · rintro ⟨ds, hds, h⟩
    obtain ⟨hrun, rfl⟩ := digits?_eq_some_iff.1 hds
    split at h
    · next hlength =>
      cases h
      exact ⟨hrun, hlength, ofDigits_eq _⟩
    · contradiction
  · rintro ⟨hrun, hlength, rfl⟩
    refine ⟨_, digits?_eq_some_iff.2 ⟨hrun, rfl⟩, ?_⟩
    exact (if_pos hlength).trans (congrArg some (ofDigits_eq _))

/-- A run has no sign of its own. -/
theorem IsRun.integer?_eq (h : IsRun s) : integer? s = (natural? s).map Int.ofNat := by
  unfold integer?
  split
  · exact absurd h.isDigit_head (by decide)
  · exact absurd h.isDigit_head (by decide)
  · rfl

theorem integer?_plus (s : List Char) : integer? ('+' :: s) = (natural? s).map Int.ofNat := rfl

theorem integer?_minus (s : List Char) :
    integer? ('-' :: s) = (natural? s).map fun (n : Nat) => -(n : Int) := by
  rw [integer?]
  cases natural? s <;> rfl

/-- The reader of numerals takes exactly the numerals, and gives the number that they write. -/
theorem integer?_eq_some_iff {n : Int} : integer? s = some n ↔ IsNumeral s n := by
  constructor
  · intro h
    have hread := h
    have hsigned {sign run : List Char} {unit : Int} {m : Nat} (hsign : IsSign sign unit)
        (hs : s = sign ++ run) (hm : natural? run = some m) (hn : n = unit * m) :
          IsNumeral s n := by
      obtain ⟨hrun, hlength, rfl⟩ := natural?_eq_some_iff.1 hm
      exact ⟨sign, unit, run, hsign, hrun, hlength, hs, hn⟩
    unfold integer? at h
    split at h
    · obtain ⟨m, hm, rfl⟩ := Option.map_eq_some_iff.1 h
      exact hsigned .plus rfl hm (Int.one_mul _).symm
    · rw [integer?_minus] at hread
      obtain ⟨m, hm, rfl⟩ := Option.map_eq_some_iff.1 hread
      exact hsigned .minus rfl hm (Int.neg_one_mul _).symm
    · obtain ⟨m, hm, rfl⟩ := Option.map_eq_some_iff.1 h
      exact hsigned .none rfl hm (Int.one_mul _).symm
  · rintro ⟨sign, unit, run, hsign, hrun, hlength, rfl, rfl⟩
    have hread := natural?_eq_some_iff.2 ⟨hrun, hlength, rfl⟩
    cases hsign with
    | none =>
      rw [List.nil_append, hrun.integer?_eq, hread, Int.one_mul]
      rfl
    | plus =>
      rw [List.singleton_append, integer?_plus, hread, Int.one_mul]
      rfl
    | minus =>
      rw [List.singleton_append, integer?_minus, hread, Int.neg_one_mul]
      rfl

end Numeral

end PackageBuild.Text
