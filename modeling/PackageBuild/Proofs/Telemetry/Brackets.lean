import Mathlib.Data.List.Nodup
import PackageBuild.Telemetry.Trace

/-!
# Spans as brackets

The life of the spans of a run, read off its events: a span is open from its start to its end.
Spans are brackets when each one is started and ended once, the newest open one first, and the
events about a span come while it is open.

Main results:

- Theorem `Ledger.Run.accounted`: what fits a ledger of open spans keeps it.
- Theorem `Ledger.Run.bracketed`: a run that leaves the ledger as it was is made of brackets.
-/

namespace PackageBuild.Telemetry

/-! ## Events of spans -/

namespace Event

/-- The span that an event starts. -/
def started? : Event → Option Nat
  | .start span .. => some span
  | _ => none

/-- The span that an event ends. -/
def finished? : Event → Option Nat
  | .finish span => some span
  | _ => none

/-- The span that an event between its start and its end is about. -/
def subject? : Event → Option Nat
  | .set span .. | .elapsed span | .exception span _ | .failed span _ => some span
  | _ => none

end Event

variable {outer : List Nat} {es fs before after : List Event} {e : Event} {span n : Nat}

/-- The spans that events start, in order. -/
def startedIn (es : List Event) : List Nat := es.filterMap Event.started?

/-- The spans that events end, in order. -/
def finishedIn (es : List Event) : List Nat := es.filterMap Event.finished?

/-- The spans that are open after events, the newest first, when `outer` were open before. -/
def openSpans (outer : List Nat) (es : List Event) : List Nat :=
  ((startedIn es).reverse ++ outer).filter fun span => span ∉ finishedIn es

/-- Beside the open spans `outer`, the innermost first, events start and end spans like brackets. -/
structure Bracketed (outer : List Nat) (es : List Event) : Prop where
  /-- No span is started twice, nor one that was open already. -/
  started_once : (outer.reverse ++ startedIn es).Nodup
  /-- The spans that are ended are those that are started, each once. -/
  finished_once : (finishedIn es).Perm (startedIn es)
  /-- The parent of a span is the innermost span that is open at its start. -/
  parent : ∀ before after span parent? name scope attributes,
    es = before ++ .start span parent? name scope attributes :: after →
      parent? = (openSpans outer before).head?
  /-- Of the open spans the one that was started last ends first. -/
  innermost : ∀ before after span, es = before ++ .finish span :: after →
    (openSpans outer before).head? = some span
  /-- What is subject a span come while it is open. -/
  subject_open : ∀ before after e span, es = before ++ e :: after → e.subject? = some span →
    span ∈ openSpans outer before

/-! ## Open spans event by event -/

@[simp] theorem startedIn_append (es fs : List Event) :
    startedIn (es ++ fs) = startedIn es ++ startedIn fs :=
  List.filterMap_append

@[simp] theorem finishedIn_append (es fs : List Event) :
    finishedIn (es ++ fs) = finishedIn es ++ finishedIn fs :=
  List.filterMap_append

theorem openSpans_nil (outer : List Nat) : openSpans outer [] = outer := by
  simp [openSpans, startedIn, finishedIn]

/-- A span is open when it was started and not ended. -/
theorem mem_openSpans_iff :
    span ∈ openSpans outer es ↔ (span ∈ startedIn es ∨ span ∈ outer) ∧ span ∉ finishedIn es := by
  simp [openSpans, or_and_right]

/-- A new span is the newest open one. -/
theorem openSpans_start {parent? : Option Nat} {name scope : Value} {attributes : Attributes}
    (h : span ∉ finishedIn es) :
    openSpans outer (es ++ [.start span parent? name scope attributes]) =
      span :: openSpans outer es := by
  have hstarted : startedIn [.start span parent? name scope attributes] = [span] := rfl
  have hfinished : finishedIn [.start span parent? name scope attributes] = [] := rfl
  rw [openSpans, startedIn_append, finishedIn_append, hstarted, hfinished, List.append_nil,
    List.reverse_append, List.reverse_singleton, List.singleton_append, List.cons_append,
    List.filter_cons_of_pos (by simpa using h)]
  rfl

/-- A span that ends is open no more. -/
theorem openSpans_finish :
    openSpans outer (es ++ [.finish span]) = (openSpans outer es).filter (· ≠ span) := by
  have hstarted : startedIn [.finish span] = [] := rfl
  have hfinished : finishedIn [.finish span] = [span] := rfl
  rw [openSpans, openSpans, startedIn_append, finishedIn_append, hstarted, hfinished,
    List.append_nil, List.filter_filter]
  refine List.filter_congr fun other _ => ?_
  simp [not_or, and_comm]

/-- Other events open and end no span. -/
theorem openSpans_other (hstarted : e.started? = none) (hfinished : e.finished? = none) :
    openSpans outer (es ++ [e]) = openSpans outer es := by
  simp [openSpans, startedIn, finishedIn, hstarted, hfinished]

/-! ## The ledger of open spans -/

/-- The open spans, the innermost first, and the number of spans that were started so far. -/
structure Ledger where
  stack : List Nat
  count : Nat

namespace Ledger

variable {l m last : Ledger}

/-- An event that opens and ends no span, and is about open spans only. -/
structure Beside (stack : List Nat) (e : Event) : Prop where
  started : e.started? = none
  finished : e.finished? = none
  subject : ∀ span, e.subject? = some span → span ∈ stack

/-- Log records are beside the spans. -/
theorem beside_log (stack : List Nat) (record : Log.Record) : Beside stack (.log record) :=
  ⟨rfl, rfl, nofun⟩

/-- Conditions that were caught are beside the spans. -/
theorem beside_caught (stack : List Nat) (condition? : Option Condition) :
    Beside stack (.caught condition?) :=
  ⟨rfl, rfl, nofun⟩

/-- An event about the innermost open span is beside the open spans. -/
theorem Beside.of_subject {stack : List Nat} (hspan : stack.head? = some span)
    (hstarted : e.started? = none) (hfinished : e.finished? = none)
    (hsubject : e.subject? = some span) : Beside stack e := by
  refine ⟨hstarted, hfinished, fun other hother => ?_⟩
  rw [hsubject] at hother
  exact Option.some.inj hother ▸ List.mem_of_mem_head? hspan

/-- An event fits the open spans and leaves others. -/
inductive Fits : Ledger → Event → Ledger → Prop where
  /-- A span gets the next number, and the innermost open span as its parent. -/
  | start {l : Ledger} (name scope : Value) (attributes : Attributes) :
      Fits l (.start (l.count + 1) l.stack.head? name scope attributes)
        ⟨(l.count + 1) :: l.stack, l.count + 1⟩
  /-- The innermost span ends. -/
  | finish {span : Nat} {stack : List Nat} {count : Nat} :
      Fits ⟨span :: stack, count⟩ (.finish span) ⟨stack, count⟩
  /-- All else leaves the spans as they are. -/
  | beside {l : Ledger} {e : Event} (h : Beside l.stack e) : Fits l e l

/-- Events fit the open spans one after another. -/
inductive Run : Ledger → List Event → Ledger → Prop where
  | nil (l : Ledger) : Run l [] l
  | cons {l m last : Ledger} {e : Event} {es : List Event} (first : Fits l e m)
      (rest : Run m es last) : Run l (e :: es) last

/-- Runs of a ledger can be put together. -/
theorem Run.append (h : Run l es m) (h' : Run m fs last) : Run l (es ++ fs) last := by
  induction h with
  | nil => exact h'
  | cons first _ ih => exact .cons first (ih h')

/-- Events beside the spans, one after another. -/
theorem run_beside (h : ∀ e ∈ es, Beside l.stack e) : Run l es l := by
  induction es with
  | nil => exact .nil l
  | cons e es ih =>
    obtain ⟨hfirst, hrest⟩ := List.forall_mem_cons.1 h
    exact .cons (.beside hfirst) (ih hrest)

/-- A run can be stopped at each of its events. -/
theorem Run.split (h : Run l (before ++ e :: after) last) :
    ∃ m m', Run l before m ∧ Fits m e m' ∧ Run m' after last := by
  induction before generalizing l with
  | nil =>
    cases h with
    | cons first rest => exact ⟨_, _, .nil l, first, rest⟩
  | cons f before ih =>
    cases h with
    | cons first rest =>
      obtain ⟨m, m', hbefore, hfits, hafter⟩ := ih rest
      exact ⟨m, m', .cons first hbefore, hfits, hafter⟩

/-! ## What a ledger accounts for -/

/-- A ledger agrees with the events since a time when the spans `outer` were open and `n` spans had
been started. -/
structure Accounted (outer : List Nat) (n : Nat) (es : List Event) (l : Ledger) : Prop where
  /-- Inner spans have higher numbers. -/
  sorted : l.stack.Pairwise (· > ·)
  bounded : ∀ span ∈ l.stack, span ≤ l.count
  stack : l.stack = openSpans outer es
  started : (startedIn es).Pairwise (· < ·)
  started_after : ∀ span ∈ startedIn es, n < span ∧ span ≤ l.count
  finished : (finishedIn es).Nodup
  finished_before : ∀ span ∈ finishedIn es,
    span ≤ l.count ∧ (span ∈ startedIn es ∨ span ∈ outer)
  grown : n ≤ l.count

/-- At first the ledger holds the outer spans. -/
theorem accounted_nil (hsorted : outer.Pairwise (· > ·)) (hbounded : ∀ span ∈ outer, span ≤ n) :
    Accounted outer n [] ⟨outer, n⟩ where
  sorted := hsorted
  bounded := hbounded
  stack := (openSpans_nil outer).symm
  started := List.Pairwise.nil
  started_after := List.forall_mem_nil _
  finished := List.nodup_nil
  finished_before := List.forall_mem_nil _
  grown := Nat.le_refl n

/-- Starting a span is accounted for. -/
theorem Accounted.start (h : Accounted outer n es l) (name scope : Value)
    (attributes : Attributes) :
    Accounted outer n (es ++ [.start (l.count + 1) l.stack.head? name scope attributes])
      ⟨(l.count + 1) :: l.stack, l.count + 1⟩ := by
  have hstarted : startedIn [.start (l.count + 1) l.stack.head? name scope attributes] =
      [l.count + 1] := rfl
  have hfinished : finishedIn [.start (l.count + 1) l.stack.head? name scope attributes] = [] := rfl
  refine ⟨?_, ?_, ?_, ?_, ?_, ?_, ?_, Nat.le_succ_of_le h.grown⟩
  · exact List.pairwise_cons.2
      ⟨fun span hspan => Nat.lt_succ_of_le (h.bounded span hspan), h.sorted⟩
  · intro span hspan
    rcases List.mem_cons.1 hspan with rfl | hspan
    · exact Nat.le_refl _
    · exact Nat.le_succ_of_le (h.bounded span hspan)
  · rw [openSpans_start, ← h.stack]
    intro hmem
    exact Nat.not_succ_le_self _ (h.finished_before _ hmem).1
  · rw [startedIn_append, hstarted, List.pairwise_append]
    refine ⟨h.started, List.pairwise_singleton _ _, fun span hspan new hnew => ?_⟩
    rw [List.mem_singleton.1 hnew]
    exact Nat.lt_succ_of_le (h.started_after span hspan).2
  · intro span hspan
    rw [startedIn_append, hstarted, List.mem_append, List.mem_singleton] at hspan
    rcases hspan with hspan | rfl
    · exact ⟨(h.started_after span hspan).1, Nat.le_succ_of_le (h.started_after span hspan).2⟩
    · exact ⟨Nat.lt_succ_of_le h.grown, Nat.le_refl _⟩
  · rw [finishedIn_append, hfinished, List.append_nil]
    exact h.finished
  · intro span hspan
    rw [finishedIn_append, hfinished, List.append_nil] at hspan
    obtain ⟨hle, hknown⟩ := h.finished_before span hspan
    refine ⟨Nat.le_succ_of_le hle, hknown.imp_left fun hmem => ?_⟩
    rw [startedIn_append]
    exact List.mem_append_left _ hmem

/-- Ending the innermost span is accounted for. -/
theorem Accounted.finish {stack : List Nat} {count : Nat}
    (h : Accounted outer n es ⟨span :: stack, count⟩) :
    Accounted outer n (es ++ [.finish span]) ⟨stack, count⟩ := by
  have hstarted : startedIn (es ++ [.finish span]) = startedIn es := by
    rw [startedIn_append]
    exact List.append_nil _
  have hfinished : finishedIn (es ++ [.finish span]) = finishedIn es ++ [span] :=
    finishedIn_append es [.finish span]
  obtain ⟨hinner, hsorted⟩ := List.pairwise_cons.1 h.sorted
  have hopen : span ∈ openSpans outer es := h.stack ▸ List.mem_cons_self
  obtain ⟨hknown, hnew⟩ := mem_openSpans_iff.1 hopen
  refine ⟨hsorted, fun other hother => h.bounded other (List.mem_cons_of_mem _ hother), ?_,
    hstarted ▸ h.started, hstarted ▸ h.started_after, ?_, ?_, h.grown⟩
  · rw [openSpans_finish, ← h.stack, List.filter_cons_of_neg (by simp)]
    refine (List.filter_eq_self.2 fun other hother => ?_).symm
    exact decide_eq_true (Nat.ne_of_lt (hinner other hother))
  · rw [hfinished]
    refine List.nodup_append.2
      ⟨h.finished, List.nodup_singleton _, fun other hother new hlast => ?_⟩
    rw [List.mem_singleton.1 hlast]
    rintro rfl
    exact hnew hother
  · intro other hother
    rw [hstarted]
    rw [hfinished, List.mem_append, List.mem_singleton] at hother
    rcases hother with hother | rfl
    · exact h.finished_before other hother
    · exact ⟨h.bounded _ List.mem_cons_self, hknown⟩

/-- An event beside the spans changes no account. -/
theorem Accounted.beside (h : Accounted outer n es l) (he : Beside l.stack e) :
    Accounted outer n (es ++ [e]) l := by
  have hstarted : startedIn (es ++ [e]) = startedIn es := by
    simp [startedIn, he.started]
  have hfinished : finishedIn (es ++ [e]) = finishedIn es := by
    simp [finishedIn, he.finished]
  refine ⟨h.sorted, h.bounded, ?_, ?_, ?_, ?_, ?_, h.grown⟩
  · rw [openSpans_other he.started he.finished]
    exact h.stack
  · exact hstarted ▸ h.started
  · exact hstarted ▸ h.started_after
  · exact hfinished ▸ h.finished
  · rw [hstarted, hfinished]
    exact h.finished_before

/-- What fits a ledger is accounted for. -/
theorem Run.accounted (h : Run l fs last) (hbefore : Accounted outer n es l) :
    Accounted outer n (es ++ fs) last := by
  induction h generalizing es with
  | nil => rwa [List.append_nil]
  | @cons l m last e fs first _ ih =>
    rw [← List.singleton_append, ← List.append_assoc]
    refine ih ?_
    cases first with
    | start name scope attributes => exact hbefore.start name scope attributes
    | finish => exact hbefore.finish
    | beside he => exact hbefore.beside he

/-- A run that leaves the open spans as they were starts and ends spans like brackets. -/
theorem Run.bracketed {count : Nat} (h : Run ⟨outer, n⟩ es ⟨outer, count⟩)
    (hsorted : outer.Pairwise (· > ·)) (hbounded : ∀ span ∈ outer, span ≤ n) :
    Bracketed outer es := by
  have hbegin := accounted_nil hsorted hbounded
  have hat {before after : List Event} {e : Event} (he : es = before ++ e :: after) :
      ∃ m m', m.stack = openSpans outer before ∧ Fits m e m' := by
    obtain ⟨m, m', hbefore, hfits, -⟩ := Run.split (he ▸ h)
    exact ⟨m, m', (hbefore.accounted hbegin).stack, hfits⟩
  have hend : Accounted outer n es ⟨outer, count⟩ := h.accounted hbegin
  have hnew : ∀ span ∈ startedIn es, span ∉ outer := by
    intro span hstarted houter
    exact Nat.not_lt.2 (hbounded span houter) (hend.started_after span hstarted).1
  refine ⟨?_, ?_, ?_, ?_, ?_⟩
  · refine List.nodup_append.2 ⟨?_, hend.started.imp Nat.ne_of_lt, fun span houter new hspan => ?_⟩
    · exact List.nodup_reverse.2 (hsorted.imp fun hgt => Nat.ne_of_gt hgt)
    · rintro rfl
      exact hnew span hspan (List.mem_reverse.1 houter)
  · refine (List.perm_ext_iff_of_nodup hend.finished (hend.started.imp Nat.ne_of_lt)).2 fun span =>
      ?_
    have hopen : span ∈ outer ↔ (span ∈ startedIn es ∨ span ∈ outer) ∧ span ∉ finishedIn es := by
      rw [← mem_openSpans_iff, ← hend.stack]
    constructor
    · intro hfinished
      refine (hend.finished_before span hfinished).2.resolve_right fun houter => ?_
      exact (hopen.1 houter).2 hfinished
    · intro hstarted
      by_contra hunfinished
      exact hnew span hstarted (hopen.2 ⟨.inl hstarted, hunfinished⟩)
  · intro before after span parent? name scope attributes he
    obtain ⟨m, m', hstack, hfits⟩ := hat he
    rw [← hstack]
    cases hfits with
    | start => rfl
    | beside hbeside => exact absurd hbeside.started (by simp [Event.started?])
  · intro before after span he
    obtain ⟨m, m', hstack, hfits⟩ := hat he
    rw [← hstack]
    cases hfits with
    | finish => rfl
    | beside hbeside => exact absurd hbeside.finished (by simp [Event.finished?])
  · intro before after e span he hsubject
    obtain ⟨m, m', hstack, hfits⟩ := hat he
    rw [← hstack]
    cases hfits with
    | start => contradiction
    | finish => contradiction
    | beside hbeside => exact hbeside.subject span hsubject

end Ledger

end PackageBuild.Telemetry
