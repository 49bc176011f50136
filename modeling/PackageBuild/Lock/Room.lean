import PackageBuild.Lock.Basic

/-!
# The waiting room of the lock

Threads ask for a side of the lock. One that has to wait sleeps until it is notified; then it looks
at the lock once more and takes it or sleeps again. Releasing notifies all that sleep. A sleeping
thread may give up.
-/

namespace PackageBuild

/-- A thread that waits for a side. -/
structure Sleeper where
  thread : Nat
  side : Side
  /-- Whether it was notified since it went to sleep. -/
  notified : Bool := false
  deriving DecidableEq, Repr

/-- The lock with the threads that wait for it, in the order in which they went to sleep. -/
structure Room where
  lock : Lock := {}
  sleepers : List Sleeper := []
  deriving DecidableEq, Repr, Inhabited

namespace Room

/-- The lock with one more writer that waits, if a writer does. -/
def announce (l : Lock) : Side → Lock
  | .read => l
  | .write => { l with waitingWriters := l.waitingWriters + 1 }

/-- The lock with one writer less that waits, if a writer did. -/
def withdraw (l : Lock) : Side → Lock
  | .read => l
  | .write => { l with waitingWriters := l.waitingWriters - 1 }

/-- A thread looks at the lock: it takes its side, or it goes to sleep behind the others. -/
def look (r : Room) (thread : Nat) (side : Side) : Room × Bool :=
  if r.lock.isBlocked side then
    ({ r with sleepers := r.sleepers ++ [⟨thread, side, false⟩] }, false)
  else ({ r with lock := (withdraw r.lock side).grant side }, true)

/-- A thread asks for a side; whether it got it at once. -/
def request (r : Room) (thread : Nat) (side : Side) : Room × Bool :=
  { r with lock := announce r.lock side }.look thread side

/-- The room without a waiting thread. -/
def without (r : Room) (thread : Nat) : Room :=
  { r with sleepers := r.sleepers.filter fun s => s.thread ≠ thread }

/-- A notified thread wakes and looks at the lock again. -/
def resume (r : Room) (s : Sleeper) : Room × Bool := (r.without s.thread).look s.thread s.side

/-- A thread gives up its request. -/
def abandon (r : Room) (s : Sleeper) : Room :=
  { r.without s.thread with lock := withdraw r.lock s.side }

/-- All sleeping threads are notified. -/
def notifyAll (r : Room) : Room :=
  { r with sleepers := r.sleepers.map fun s => { s with notified := true } }

/-- A side is released. -/
def release (r : Room) (side : Side) : Except Lock.NotHeld Room :=
  (r.lock.release side).map fun lock =>
    let after := { r with lock := lock }
    if lock.wakes side then after.notifyAll else after

/-- The waiting thread that was notified first. -/
def firstNotified? (r : Room) : Option Sleeper := r.sleepers.find? Sleeper.notified

/-- The number of threads that wait for the read side. -/
def waitingReaders (r : Room) : Nat := (r.sleepers.filter fun s => s.side = .read).length

end Room

end PackageBuild
