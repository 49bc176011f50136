import PackageBuild.Proofs.Lock.Holders
import PackageBuild.Proofs.Lock.Orderly

/-!
# Writers that give up

A writer whose wait ends with an exception takes its request back and notifies nobody.  The lock
counts it no more and its holders are what they were, but the readers that went to sleep because of
this writer sleep on, even when nothing else keeps them waiting: until a side is released that wakes
them, and on a free lock for good.

Main results:

- Theorem `Run.keeps_asleep`: without a release nobody wakes a thread.
- Theorem `readersBlocked_abandon_iff`: when the readers that sleep have a reason to.
- Theorem `Run.withdrawn`: what a writer that gives up leaves behind.
-/

namespace PackageBuild.Room

variable {r next last : Room} {es fs : List Event} {e : Event} {s t : Sleeper} {thread : Nat}

/-! ## Sleeping on -/

/-- A thread that was notified is another one than a thread that was not. -/
theorem Orderly.thread_ne (h : r.Orderly) (ht : t ∈ r.sleepers) (hs : s ∈ r.sleepers)
    (hasleep : t.notified = false) (hawake : s.notified = true) : t.thread ≠ s.thread := by
  intro hsame
  rw [h.eq_of_thread_eq ht hs hsame, hawake] at hasleep
  contradiction

/-- Apart from a release and its own decision, nothing ends the sleep of a thread that was not
notified. -/
theorem Moves.keeps_asleep (horderly : r.Orderly) (hmove : Moves r e next) (ht : t ∈ r.sleepers)
    (hnotified : t.notified = false) (hreleased : ∀ side, e ≠ .released side)
    (hgaveUp : ∀ side, e ≠ .abandoned t.thread side) : t ∈ next.sleepers := by
  cases hmove using Moves.effects with
  | sleep thread side _ _ => exact List.mem_append_left _ ht
  | grant thread side _ _ => exact ht
  | again s hs hs' _ =>
    exact List.mem_append_left _ (mem_without_iff.2 ⟨ht, horderly.thread_ne ht hs hnotified hs'⟩)
  | leave s hs hs' _ => exact mem_without_iff.2 ⟨ht, horderly.thread_ne ht hs hnotified hs'⟩
  | last _ => exact absurd rfl (hreleased .read)
  | reader _ => exact absurd rfl (hreleased .read)
  | writer _ => exact absurd rfl (hreleased .write)
  | refuse _ _ _ => exact ht
  | abandon s _ =>
    refine mem_without_iff.2 ⟨ht, fun hsame => hgaveUp s.side ?_⟩
    rw [hsame]

/-- Without a release nobody wakes a thread that was not notified. -/
theorem Run.keeps_asleep (horderly : r.Orderly) (hrun : Run r fs last) (ht : t ∈ r.sleepers)
    (hnotified : t.notified = false) (hreleased : ∀ side, .released side ∉ fs)
    (hgaveUp : ∀ side, .abandoned t.thread side ∉ fs) : t ∈ last.sleepers := by
  induction hrun with
  | nil => exact ht
  | cons hmove _ ih =>
    refine ih (horderly.moves hmove) (hmove.keeps_asleep horderly ht hnotified ?_ ?_) ?_ ?_
    · rintro side rfl
      exact hreleased side List.mem_cons_self
    · rintro side rfl
      exact hgaveUp side List.mem_cons_self
    · exact fun side h => hreleased side (List.mem_cons_of_mem _ h)
    · exact fun side h => hgaveUp side (List.mem_cons_of_mem _ h)

/-! ## Reasons to sleep -/

/-- Every reader that sleeps and was not notified has to wait. -/
def ReadersBlocked (r : Room) : Prop :=
  ∀ t ∈ r.sleepers, t.notified = false → t.side = .read → r.lock.isBlocked .read = true

/-- A reader has to wait when a writer holds the lock or waits for it. -/
theorem Orderly.isBlocked_read_iff (h : r.Orderly) :
    r.lock.isBlocked .read = true ↔ r.lock.writing = true ∨ ∃ writer, r.Waits writer .write := by
  rw [Lock.isBlocked_read_iff, h.waiting, List.countP_pos_iff]
  simp [Waits]

/-- Behind a writer that gives up, the readers that sleep have a reason to exactly when a writer
holds the lock, another one waits, or all of them were notified. -/
theorem readersBlocked_abandon_iff (horderly : r.Orderly) (hs : s ∈ r.sleepers)
    (hside : s.side = .write) :
    (r.abandon s).ReadersBlocked ↔
      r.lock.writing = true ∨ (∃ writer, writer ≠ s.thread ∧ r.Waits writer .write) ∨
        ∀ t ∈ r.sleepers, t.side = .read → t.notified = true := by
  have hwriting : (r.abandon s).lock.writing = r.lock.writing := (sameHolders_withdraw _ _).2
  have hothers : (∃ writer, (r.abandon s).Waits writer .write) ↔
      ∃ writer, writer ≠ s.thread ∧ r.Waits writer .write := by
    refine exists_congr fun writer => ?_
    constructor
    · rintro ⟨w, hw, rfl, hwrite⟩
      exact ⟨(mem_without_iff.1 hw).2, w, (mem_without_iff.1 hw).1, rfl, hwrite⟩
    · rintro ⟨hne, w, hw, rfl, hwrite⟩
      exact ⟨w, mem_without_iff.2 ⟨hw, hne⟩, rfl, hwrite⟩
  have hblocked := (horderly.abandon hs).isBlocked_read_iff
  rw [hwriting, hothers] at hblocked
  rw [← or_assoc, ← hblocked]
  constructor
  · intro h
    by_cases hfree : (r.abandon s).lock.isBlocked .read = true
    · exact .inl hfree
    · refine .inr fun t ht hread => ?_
      rw [← Bool.not_eq_false]
      refine fun hnotified => hfree (h t (mem_without_iff.2 ⟨ht, ?_⟩) hnotified hread)
      intro hsame
      rw [horderly.eq_of_thread_eq ht hs hsame, hside] at hread
      contradiction
  · rintro (hblocked | hall) t ht hnotified hread
    · exact hblocked
    · have hnotified' := hall t (mem_without_iff.1 ht).1 hread
      exact absurd (hnotified.symm.trans hnotified') Bool.false_ne_true

/-! ## What is left behind -/

/-- A thread took its request for the write side back, which led from one room to the next one. -/
structure Withdrawn (r : Room) (thread : Nat) (next : Room) : Prop where
  /-- The request counts no more, and the lock counts the other writers that wait. -/
  restored : next.lock.waitingWriters + 1 = r.lock.waitingWriters ∧
    next.lock.waitingWriters = next.sleepers.countP fun s => s.side = .write
  /-- The lock is held as it was, so that the thread does not hold it. -/
  holders : SameHolders r next
  /-- The others that wait are those that waited, and each was notified or not as before. -/
  others : ∀ t, t ∈ next.sleepers ↔ t ∈ r.sleepers ∧ t.thread ≠ thread
  /-- The readers that sleep without being notified have to wait if a writer holds the lock or
  another one waits, and not otherwise. -/
  blocked_iff : next.ReadersBlocked ↔
    r.lock.writing = true ∨ (∃ writer, writer ≠ thread ∧ r.Waits writer .write) ∨
      ∀ t ∈ r.sleepers, t.side = .read → t.notified = true
  /-- Whether they have to wait or not, they sleep until the lock is released or they give up. -/
  asleep : ∀ fs last, Run next fs last → (∀ side, .released side ∉ fs) →
    ∀ t ∈ next.sleepers, t.notified = false → (∀ side, .abandoned t.thread side ∉ fs) →
      t ∈ last.sleepers

/-- A writer that gives up takes its request back, but does not wake those that slept because of it.
-/
theorem Run.withdrawn (hrun : Run {} es r) (hmove : Moves r (.abandoned thread .write) next) :
    Withdrawn r thread next := by
  have horderly := hrun.orderly
  have hnext := horderly.moves hmove
  have hholders := hmove.of_abandoned
  generalize he : Event.abandoned thread .write = e at hmove
  cases hmove using Moves.effects with
  | abandon s hs =>
    injection he with hthread hside
    subst hthread
    have hcount : 0 < r.lock.waitingWriters := by
      rw [horderly.waiting, List.countP_pos_iff]
      exact ⟨s, hs, decide_eq_true hside.symm⟩
    have hless : (r.abandon s).lock.waitingWriters = r.lock.waitingWriters - 1 := by
      simp only [Room.abandon, withdraw, ← hside]
    exact {
      restored := ⟨by rw [hless]; omega, hnext.waiting⟩
      holders := hholders
      others := fun _ => mem_without_iff
      blocked_iff := readersBlocked_abandon_iff horderly hs hside.symm
      asleep := fun _ _ hlater hreleased _ ht hnotified hgaveUp =>
        hlater.keeps_asleep hnext ht hnotified hreleased hgaveUp }
  | _ => cases he

/-! ## A reader that is left asleep -/

/-- A reader has the lock, a writer and a second reader wait.  The first reader leaves, and the
second one looks at the lock before the writer and sleeps again. -/
def hesitating : List Event :=
  [.looked 1 .read true, .looked 2 .write false, .looked 3 .read false, .released .read,
    .looked 3 .read false]

theorem run_hesitating :
    Run {} hesitating ⟨⟨0, false, 1⟩, [⟨2, .write, true⟩, ⟨3, .read, false⟩]⟩ :=
  .cons (.request .read (by decide)) <| .cons (.request .write (by decide)) <|
    .cons (.request .read (by decide)) <| .cons (.release rfl) <|
      .cons (.resume (s := ⟨3, .read, true⟩) (by decide) rfl) <| .nil _

/-- When the writer gives up then, the second reader is left asleep on a lock that is free. -/
theorem withdrawn_hesitating :
    Withdrawn ⟨⟨0, false, 1⟩, [⟨2, .write, true⟩, ⟨3, .read, false⟩]⟩ 2
      ⟨⟨0, false, 0⟩, [⟨3, .read, false⟩]⟩ :=
  run_hesitating.withdrawn (.abandon (s := ⟨2, .write, true⟩) List.mem_cons_self)

/-- A reader that came while a writer waited sleeps on behind another reader, although no writer
holds the lock or waits for it any more. -/
theorem not_readersBlocked_abandoned :
    Run {} [.looked 1 .read true, .looked 2 .write false, .looked 3 .read false,
        .abandoned 2 .write] ⟨⟨1, false, 0⟩, [⟨3, .read, false⟩]⟩ ∧
      ¬ ReadersBlocked ⟨⟨1, false, 0⟩, [⟨3, .read, false⟩]⟩ := by
  constructor
  · exact .cons (.request .read (by decide)) <| .cons (.request .write (by decide)) <|
      .cons (.request .read (by decide)) <|
        .cons (.abandon (s := ⟨2, .write, false⟩) List.mem_cons_self) <| .nil _
  · intro h
    exact absurd (h ⟨3, .read, false⟩ List.mem_cons_self rfl rfl) (by decide)

end PackageBuild.Room
