import Mathlib.Data.Finset.Card
import PackageBuild.Proofs.Lock.Orderly

/-!
# What the lock counts

The lock knows neither its owners nor its past.  Still its three fields are functions of the past:
how often each side was obtained and released, and which writers ask for it.

Main results:

- Theorem `Run.balanced`: the holders are those that obtained a side less those that released it.
- Theorem `Run.mem_pending_iff`: the threads that ask for a side are those that wait for it.
- Theorem `Run.accounts`: every field of the lock agrees with what happened.
-/

namespace PackageBuild.Room

variable {r next : Room} {es : List Event} {e : Event} {s : Sleeper} {thread : Nat} {side : Side}

/-! ## Counting events -/

/-- Looking at the lock obtains the side that is looked for, if it is got. -/
@[simp] theorem obtained_looked (got : Bool) (s side : Side) :
    obtained side [.looked thread s got] = if got = true ∧ s = side then 1 else 0 := by
  cases got <;> simp [obtained]

@[simp] theorem obtained_released (s side : Side) : obtained side [.released s] = 0 := rfl

@[simp] theorem obtained_refused (s side : Side) : obtained side [.refused s] = 0 := rfl

@[simp] theorem obtained_abandoned (s side : Side) : obtained side [.abandoned thread s] = 0 := rfl

@[simp] theorem released_looked (got : Bool) (s side : Side) :
    released side [.looked thread s got] = 0 := rfl

/-- Releasing a side counts for that side only. -/
@[simp] theorem released_released (s side : Side) :
    released side [.released s] = if s = side then 1 else 0 := by
  simp [released, List.count_singleton]

@[simp] theorem released_refused (s side : Side) : released side [.refused s] = 0 := rfl

@[simp] theorem released_abandoned (s side : Side) : released side [.abandoned thread s] = 0 := rfl

/-! ## Holders -/

/-- A lock has as many holders as obtained it and have not released it. -/
structure Balanced (es : List Event) (l : Lock) : Prop where
  readers : l.readers + released .read es = obtained .read es
  writer : obtained .write es = released .write es + l.writing.toNat

/-- Announcements are not counted among the holders. -/
theorem Balanced.announce {l : Lock} (h : Balanced es l) (side : Side) :
    Balanced es (announce l side) := by
  cases side <;> exact ⟨h.readers, h.writer⟩

/-- Giving up keeps the balance of both sides. -/
theorem Balanced.withdraw {l : Lock} (h : Balanced es l) (side : Side) :
    Balanced es (withdraw l side) := by
  cases side <;> exact ⟨h.readers, h.writer⟩

/-- An event that neither obtains nor releases a side changes no count. -/
theorem Balanced.idle {l : Lock} (h : Balanced es l) (hobtained : ∀ side, obtained side [e] = 0)
    (hreleased : ∀ side, released side [e] = 0) : Balanced (es ++ [e]) l := by
  constructor
  · rw [released_append, obtained_append, hobtained, hreleased]
    exact h.readers
  · rw [released_append, obtained_append, hobtained, hreleased]
    exact h.writer

/-- Obtaining a side keeps the balance of both sides. -/
theorem Balanced.grant {l : Lock} (h : Balanced es l) (hfree : ¬l.isBlocked side = true)
    (thread : Nat) : Balanced (es ++ [.looked thread side true]) (l.grant side) := by
  have hreaders := h.readers
  have hwriter := h.writer
  cases side with
  | read =>
    constructor
    · simp only [obtained_append, released_append, obtained_looked, released_looked, Lock.grant,
        and_self, if_true]
      omega
    · simpa [obtained_append, released_append, Lock.grant] using hwriter
  | write =>
    rw [Lock.isBlocked_write_iff, not_or, Bool.not_eq_true] at hfree
    rw [hfree.1] at hwriter
    constructor
    · simpa [obtained_append, released_append, Lock.grant] using hreaders
    · simpa [obtained_append, released_append, Lock.grant] using hwriter

/-- Releasing the read side keeps the balance of both sides. -/
theorem Balanced.releaseRead {l : Lock} (h : Balanced es l) (hreaders : 0 < l.readers) :
    Balanced (es ++ [.released .read]) { l with readers := l.readers - 1 } := by
  have hbefore := h.readers
  constructor
  · simp only [obtained_append, released_append, obtained_released, released_released, if_true]
    omega
  · simpa [obtained_append, released_append] using h.writer

/-- Releasing the write side keeps the balance of both sides. -/
theorem Balanced.releaseWrite {l : Lock} (h : Balanced es l) (hwriting : l.writing = true) :
    Balanced (es ++ [.released .write]) { l with writing := false } := by
  have hbefore := h.writer
  rw [hwriting] at hbefore
  constructor
  · simpa [obtained_append, released_append] using h.readers
  · simpa [obtained_append, released_append] using hbefore

/-- Every move keeps the holders balanced. -/
theorem Balanced.moves (h : Balanced es r.lock) (hmove : Moves r e next) :
    Balanced (es ++ [e]) next.lock := by
  cases hmove using Moves.effects with
  | sleep thread side _ _ => exact (h.announce side).idle (by simp) (by simp)
  | grant thread side _ hfree => exact h.grant hfree thread
  | again s _ _ _ => exact h.idle (by simp) (by simp)
  | leave s _ _ hfree =>
    refine (h.withdraw s.side).grant ?_ s.thread
    rwa [isBlocked_withdraw]
  | last hlast =>
    have hreleased := h.releaseRead (hlast ▸ Nat.one_pos)
    rwa [hlast] at hreleased
  | reader hmore => exact h.releaseRead (Nat.zero_lt_of_lt hmore)
  | writer hwriting => exact h.releaseWrite hwriting
  | refuse side _ _ => exact h.idle (by simp) (by simp)
  | abandon s _ => exact (h.withdraw s.side).idle (by simp) (by simp)

/-- The holders of the lock are those that obtained a side and have not released it. -/
theorem Run.balanced {es : List Event} {r : Room} (h : Run {} es r) : Balanced es r.lock := by
  induction h using Run.induction_on_moves with
  | nil => exact ⟨rfl, rfl⟩
  | snoc _ hmove ih => exact ih.moves hmove

/-! ## Threads that ask -/

/-- The threads that ask for a side after one more event. -/
def pendingAfter (side : Side) (threads : Finset Nat) : Event → Finset Nat
  | .looked thread s got =>
    if s = side then if got then threads.erase thread else insert thread threads else threads
  | .abandoned thread s => if s = side then threads.erase thread else threads
  | .released _ | .refused _ => threads

/-- The threads that asked for a side and neither got it since nor gave up. -/
def pending (side : Side) (es : List Event) : Finset Nat := es.foldl (pendingAfter side) ∅

/-- The threads that ask for a side are known event by event. -/
theorem pending_append (side : Side) (es : List Event) (e : Event) :
    pending side (es ++ [e]) = pendingAfter side (pending side es) e := by
  rw [pending, List.foldl_append]
  rfl

/-- A thread that looks in vain asks for the side from then on. -/
theorem mem_pendingAfter_blocked {threads : Finset Nat} {t : Nat} {u : Side} :
    t ∈ pendingAfter u threads (.looked thread side false) ↔
      t ∈ threads ∨ thread = t ∧ side = u := by
  by_cases hside : side = u
  · simp [pendingAfter, hside, or_comm, eq_comm]
  · simp [pendingAfter, hside]

/-- A thread that gets the side does not ask for it any more. -/
theorem mem_pendingAfter_got {threads : Finset Nat} {t : Nat} {u : Side} :
    t ∈ pendingAfter u threads (.looked thread side true) ↔
      t ∈ threads ∧ ¬(thread = t ∧ side = u) := by
  by_cases hside : side = u
  · simp [pendingAfter, hside, and_comm, eq_comm]
  · simp [pendingAfter, hside]

/-- A thread that gives up does not ask for the side any more. -/
theorem mem_pendingAfter_abandoned {threads : Finset Nat} {t : Nat} {u : Side} :
    t ∈ pendingAfter u threads (.abandoned thread side) ↔
      t ∈ threads ∧ ¬(thread = t ∧ side = u) :=
  mem_pendingAfter_got

/-- Going to sleep makes one thread wait. -/
theorem waits_sleep_iff {t : Nat} {u : Side} :
    (r.sleep thread side).Waits t u ↔ r.Waits t u ∨ thread = t ∧ side = u := by
  simp [Waits, sleep, or_and_right, exists_or]

/-- A thread that leaves waits for no side any more. -/
theorem Orderly.waits_abandon_iff (h : r.Orderly) {t : Nat} {u : Side} (hs : s ∈ r.sleepers) :
    (r.abandon s).Waits t u ↔ r.Waits t u ∧ ¬(s.thread = t ∧ s.side = u) := by
  constructor
  · rintro ⟨s', hs', rfl, rfl⟩
    obtain ⟨hs', hne⟩ := mem_without_iff.1 hs'
    exact ⟨⟨s', hs', rfl, rfl⟩, fun heq => hne heq.1.symm⟩
  · rintro ⟨⟨s', hs', rfl, rfl⟩, hne⟩
    refine ⟨s', mem_without_iff.2 ⟨hs', ?_⟩, rfl, rfl⟩
    intro heq
    have hsame : s' = s := h.eq_of_thread_eq hs' hs heq
    exact hne ⟨by rw [hsame], by rw [hsame]⟩

/-- Notifying keeps who waits. -/
theorem waits_notifyAll_iff {t : Nat} {u : Side} : r.notifyAll.Waits t u ↔ r.Waits t u := by
  simp [Waits, notifyAll]

/-- Every move keeps the threads that ask those that wait. -/
theorem mem_pending_iff_of_moves (horderly : r.Orderly)
    (h : ∀ t u, t ∈ pending u es ↔ r.Waits t u) (hmove : Moves r e next) (t : Nat) (u : Side) :
    t ∈ pending u (es ++ [e]) ↔ next.Waits t u := by
  rw [pending_append]
  cases hmove using Moves.effects with
  | sleep thread side _ _ => rw [mem_pendingAfter_blocked, waits_sleep_iff, h]
  | grant thread side hnew _ =>
    rw [mem_pendingAfter_got, h]
    -- The thread is new, so it did not wait before.
    refine and_iff_left_of_imp ?_
    rintro ⟨s, hs, rfl, -⟩ ⟨rfl, -⟩
    exact hnew s hs rfl
  | again s hs _ _ =>
    have hagain : ((r.abandon s).sleep s.thread s.side).Waits t u ↔
        r.Waits t u ∨ s.thread = t ∧ s.side = u := by
      rw [waits_sleep_iff, horderly.waits_abandon_iff hs]
      by_cases hleft : s.thread = t ∧ s.side = u <;> simp [hleft]
    rw [mem_pendingAfter_blocked, h]
    exact hagain.symm
  | leave s hs _ _ =>
    rw [mem_pendingAfter_got, h]
    exact (horderly.waits_abandon_iff hs).symm
  | last _ =>
    rw [waits_notifyAll_iff]
    exact h t u
  | reader _ => exact h t u
  | writer _ =>
    rw [waits_notifyAll_iff]
    exact h t u
  | refuse _ _ _ => exact h t u
  | abandon s hs => rw [mem_pendingAfter_abandoned, horderly.waits_abandon_iff hs, h]

/-- The threads that ask for a side are those that wait for it. -/
theorem Run.mem_pending_iff {es : List Event} {r : Room} (h : Run {} es r) (t : Nat) (u : Side) :
    t ∈ pending u es ↔ r.Waits t u := by
  induction h using Run.induction_on_moves generalizing t u with
  | nil => simp [pending, Waits]
  | snoc hrun hmove ih => exact mem_pending_iff_of_moves hrun.orderly ih hmove t u

/-- The writers that the lock counts are the threads that ask for the write side. -/
theorem Run.waitingWriters_eq_card {es : List Event} {r : Room} (h : Run {} es r) :
    r.lock.waitingWriters = (pending .write es).card := by
  have hwriters : pending .write es =
      ((r.sleepers.filter fun s => s.side = .write).map Sleeper.thread).toFinset := by
    ext t
    rw [h.mem_pending_iff, List.mem_toFinset, List.mem_map]
    simp [Waits, and_comm, and_assoc]
  have hnodup : ((r.sleepers.filter fun s => s.side = .write).map Sleeper.thread).Nodup :=
    h.orderly.nodup.sublist (List.filter_sublist.map Sleeper.thread)
  rw [hwriters, List.toFinset_card_of_nodup hnodup, List.length_map, h.orderly.waiting,
    List.countP_eq_length_filter]

/-! ## Accounts -/

/-- A release fails when that side is not held, and then only. -/
theorem release_eq_error_iff :
    r.release side = .error ⟨side⟩ ↔ r.lock.release side = .error ⟨side⟩ := by
  rw [release]
  cases r.lock.release side <;> simp [Except.map]

/-- A side is refused exactly when everybody who obtained it has released it. -/
theorem Balanced.release_eq_error_iff (h : Balanced es r.lock) :
    r.release side = .error ⟨side⟩ ↔ obtained side es = released side es := by
  rw [Room.release_eq_error_iff]
  cases side with
  | read =>
    rw [Lock.release, Lock.releaseRead_eq_error_iff, ← h.readers]
    omega
  | write =>
    rw [Lock.release, Lock.releaseWrite_eq_error_iff, h.writer]
    cases r.lock.writing <;> simp

/-- The fields of a lock agree with what happened in its room. -/
structure Accounts (es : List Event) (r : Room) : Prop where
  /-- No reader holds the lock beside a writer. -/
  exclusive : ¬(r.lock.writing = true ∧ 0 < r.lock.readers)
  /-- The readers are those that obtained the lock less those that released it. -/
  readers : r.lock.readers + released .read es = obtained .read es
  /-- While a writer holds the lock, one more writer obtained it than released it. -/
  writing : r.lock.writing = true → obtained .write es = released .write es + 1
  /-- While no writer holds the lock, all writers that obtained it released it. -/
  not_writing : r.lock.writing = false → obtained .write es = released .write es
  /-- The writers that wait are the threads that asked for the write side and have not got it. -/
  waiting : r.lock.waitingWriters = (pending .write es).card
  /-- A side is refused exactly when all that obtained it released it. -/
  refused_iff : ∀ side, r.release side = .error ⟨side⟩ ↔ obtained side es = released side es
  /-- A refused release changes nothing and wakes nobody. -/
  refused : ∀ side next, Moves r (.refused side) next → next = r

/-- In the course of every run the room accounts for what happened. -/
theorem Run.accounts {es : List Event} {r : Room} (h : Run {} es r) : Accounts es r where
  exclusive := by
    rintro ⟨hwriting, hreaders⟩
    have hnone := h.orderly.exclusive hwriting
    omega
  readers := h.balanced.readers
  writing := by
    intro hwriting
    rw [h.balanced.writer, hwriting]
    rfl
  not_writing := by
    intro hwriting
    rw [h.balanced.writer, hwriting]
    rfl
  waiting := h.waitingWriters_eq_card
  refused_iff := fun _ => h.balanced.release_eq_error_iff
  refused := by
    intro side next hmove
    cases hmove
    rfl

/-! ## A reader, a writer and a wrong release -/

/-- A reader gets the lock and a writer has to wait; the lock is released as if a writer held it, in
vain, and then by the reader, after which the writer gets it. -/
def handover : List Event :=
  [.looked 1 .read true, .looked 2 .write false, .refused .write, .released .read,
    .looked 2 .write true]

/-- A writer waits for a reader to leave, meanwhile a release of the write side is refused, and then
the writer takes over. -/
theorem run_handover : Run {} handover ⟨⟨0, true, 0⟩, []⟩ :=
  .cons (.request .read (by decide)) <| .cons (.request .write (by decide)) <|
    .cons (.refuse rfl) <| .cons (.release rfl) <|
      .cons (.resume (s := ⟨2, .write, true⟩) List.mem_cons_self rfl) <| .nil _

/-- Before the writer looks again, it is the one that waits. -/
theorem accounts_handover :
    Accounts handover ⟨⟨0, true, 0⟩, []⟩ ∧ obtained .write handover = 1 ∧
      pending .write (handover.take 4) = {2} :=
  ⟨run_handover.accounts, rfl, rfl⟩

end PackageBuild.Room
