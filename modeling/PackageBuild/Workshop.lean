import PackageBuild.Lock.Run
import PackageBuild.Progress.Reading

/-!
# Workshops

Any number of threads share the progress of a build under one lock.  Some hold the write side and
make updates; others hold the read side and read the progress bit by bit for a task.  Every step is
a single one: a look at the lock, a release, one update or one read.  Between two steps of a thread
any steps of others may come.

Main results:

- `phase_put`: what a thread is at changes for this thread only.
- `Run.split`: a run comes to every one of its events.
-/

namespace PackageBuild

open Progress (Update Reading)

/-- What a thread wants the lock for. -/
inductive Errand (ρ : Type) where
  | write
  /-- Read the progress for a task. -/
  | read (task : ρ)

/-- The side of the lock that an errand needs. -/
def Errand.side {ρ : Type} : Errand ρ → Side
  | write => .write
  | read _ => .read

/-- What a thread is at. -/
inductive Phase (ρ α : Type) where
  | outside
  | waiting (errand : Errand ρ)
  /-- The thread holds the write side and has made updates. -/
  | writing (done : List Update)
  /-- The thread holds the read side, and a part of its reading is left. -/
  | reading (task : ρ) (rest : Reading α)

/-- Threads that share a progress under a lock. -/
structure Workshop (ρ α : Type) where
  room : Room := {}
  progress : Progress := {}
  /-- What every thread is at. -/
  phase : Nat → Phase ρ α := fun _ => .outside

namespace Workshop

variable {ρ α : Type}

/-- What happens in a workshop. -/
inductive Event (ρ α : Type) where
  /-- A thread has to wait for the lock. -/
  | waited (thread : Nat)
  /-- A waiting thread gave up. -/
  | abandoned (thread : Nat)
  /-- A thread got the write side. -/
  | began (thread : Nat)
  | updated (thread : Nat) (update : Update)
  /-- A thread gave the write side back after a block of updates. -/
  | finished (thread : Nat) (block : List Update)
  /-- A thread got the read side for a task. -/
  | opened (thread : Nat) (task : ρ)
  /-- A thread made a single read. -/
  | looked (thread : Nat)
  /-- A thread gave the read side back and has the result of its task. -/
  | closed (thread : Nat) (task : ρ) (result : α)

/-- The workshop in which a thread is at something else. -/
def put (w : Workshop ρ α) (thread : Nat) (phase : Phase ρ α) : Workshop ρ α :=
  { w with phase := fun t => if t = thread then phase else w.phase t }

/-- The workshop in which others use the lock. -/
def enter (w : Workshop ρ α) (room : Room) : Workshop ρ α := { w with room := room }

/-- The workshop after an update. -/
def update (w : Workshop ρ α) (u : Update) : Workshop ρ α :=
  { w with progress := w.progress.apply u }

theorem phase_put (w : Workshop ρ α) (thread : Nat) (phase : Phase ρ α) (t : Nat) :
    (w.put thread phase).phase t = if t = thread then phase else w.phase t := rfl

/-- A thread may look at the lock for an errand: it comes for it, or it waits for it already. -/
def MayLook (w : Workshop ρ α) (thread : Nat) (errand : Errand ρ) : Prop :=
  w.phase thread = .outside ∨ w.phase thread = .waiting errand

/-- An event takes a workshop to another; each task is read for by its own program. -/
inductive Step (program : ρ → Reading α) : Workshop ρ α → Event ρ α → Workshop ρ α → Prop where
  /-- A thread looks at the lock and has to wait. -/
  | wait {w : Workshop ρ α} {thread : Nat} {errand : Errand ρ} {room : Room}
      (look : w.MayLook thread errand)
      (moves : w.room.Moves (.looked thread errand.side false) room) :
      Step program w (.waited thread) ((w.enter room).put thread (.waiting errand))
  /-- A waiting thread gives up. -/
  | abandon {w : Workshop ρ α} {thread : Nat} {errand : Errand ρ} {room : Room}
      (waiting : w.phase thread = .waiting errand)
      (moves : w.room.Moves (.abandoned thread errand.side) room) :
      Step program w (.abandoned thread) ((w.enter room).put thread .outside)
  /-- A thread looks at the lock and gets the write side. -/
  | beginBlock {w : Workshop ρ α} {thread : Nat} {room : Room} (look : w.MayLook thread .write)
      (moves : w.room.Moves (.looked thread .write true) room) :
      Step program w (.began thread) ((w.enter room).put thread (.writing []))
  /-- A thread with the write side makes an update that is not refused. -/
  | update {w : Workshop ρ α} {thread : Nat} {done : List Update} {u : Update}
      (inside : w.phase thread = .writing done) (accepted : u.fault? = none) :
      Step program w (.updated thread u) ((w.update u).put thread (.writing (done ++ [u])))
  /-- A thread gives the write side back. -/
  | finishBlock {w : Workshop ρ α} {thread : Nat} {done : List Update} {room : Room}
      (inside : w.phase thread = .writing done) (moves : w.room.Moves (.released .write) room) :
      Step program w (.finished thread done) ((w.enter room).put thread .outside)
  /-- A thread looks at the lock and gets the read side. -/
  | openTask {w : Workshop ρ α} {thread : Nat} {task : ρ} {room : Room}
      (look : w.MayLook thread (.read task))
      (moves : w.room.Moves (.looked thread .read true) room) :
      Step program w (.opened thread task)
        ((w.enter room).put thread (.reading task (program task)))
  /-- A thread with the read side makes its next single read. -/
  | look {w : Workshop ρ α} {thread : Nat} {task : ρ} {rest next : Reading α}
      (inside : w.phase thread = .reading task rest) (more : rest.next? w.progress = some next) :
      Step program w (.looked thread) (w.put thread (.reading task next))
  /-- A thread that has read everything gives the read side back. -/
  | closeTask {w : Workshop ρ α} {thread : Nat} {task : ρ} {result : α} {room : Room}
      (inside : w.phase thread = .reading task (.done result))
      (moves : w.room.Moves (.released .read) room) :
      Step program w (.closed thread task result) ((w.enter room).put thread .outside)

/-- Events take a workshop to another, one after another. -/
inductive Run (program : ρ → Reading α) (start : Workshop ρ α) :
    List (Event ρ α) → Workshop ρ α → Prop where
  | nil : Run program start [] start
  | snoc {es : List (Event ρ α)} {w next : Workshop ρ α} {e : Event ρ α}
      (run : Run program start es w) (step : Step program w e next) :
      Run program start (es ++ [e]) next

/-! ## Updates and blocks of a run -/

/-- The updates of all threads in the order in which they were made. -/
def updates (es : List (Event ρ α)) : List Update :=
  es.filterMap fun
    | .updated _ u => some u
    | _ => none

/-- The finished blocks of updates with their threads. -/
def blocks (es : List (Event ρ α)) : List (Nat × List Update) :=
  es.filterMap fun
    | .finished thread block => some (thread, block)
    | _ => none

/-- The threads that got the write side, in the order in which they got it. -/
def writers (es : List (Event ρ α)) : List Nat :=
  es.filterMap fun
    | .began thread => some thread
    | _ => none

/-- The updates of all finished blocks, one block after another. -/
def finishedUpdates (es : List (Event ρ α)) : List Update := (blocks es).flatMap Prod.snd

/-- A run comes to every one of its events. -/
theorem Run.split {program : ρ → Reading α} {start last : Workshop ρ α}
    {before after : List (Event ρ α)} {e : Event ρ α}
    (h : Run program start (before ++ e :: after) last) :
    ∃ w next, Run program start before w ∧ Step program w e next := by
  generalize hes : before ++ e :: after = es at h
  induction h generalizing after with
  | nil => simp at hes
  | snoc run step ih =>
    rcases List.eq_nil_or_concat after with rfl | ⟨rest, other, rfl⟩
    · obtain ⟨rfl, hlast⟩ := List.append_inj' hes rfl
      cases hlast
      exact ⟨_, _, run, step⟩
    · rw [List.concat_eq_append, ← List.cons_append, ← List.append_assoc] at hes
      obtain ⟨hfront, -⟩ := List.append_inj' hes rfl
      exact ih hfront

end Workshop

end PackageBuild
