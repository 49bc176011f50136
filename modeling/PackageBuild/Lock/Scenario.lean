import PackageBuild.Lock.Room

/-!
# Scenarios on a lock

A scenario has each request made by a thread of its own. A thread that enters holds its side until
it is made to leave; a thread that acquires is through when it has its side. After every step all
notified threads run until everybody is through or asleep.
-/

namespace PackageBuild.Room

/-- A lock in a scenario: the room, the threads that will stay once they have their side, and those
that do, the longest-staying first. -/
structure Scenario where
  room : Room := {}
  threads : Nat := 0
  entering : List Nat := []
  inside : List Side := []
  deriving Repr, Inhabited

/-- A step of a scenario. -/
inductive Step where
  | acquire (side : Side)
  | release (side : Side)
  | enter (side : Side)
  /-- The thread that stays longest in a side leaves, with an error of its own or without. -/
  | exit (side : Side) (error? : Option String)

/-- What a step ends with, other than well. -/
inductive Trouble where
  | notHeld (error : Lock.NotHeld)
  | raised (error : String)
  | nobodyInside
  deriving DecidableEq, Repr

namespace Scenario

/-- A thread got its side; it stays if it entered. -/
def obtained (s : Scenario) (thread : Nat) (side : Side) : Scenario :=
  if thread ∈ s.entering then
    { s with entering := s.entering.filter (· ≠ thread), inside := s.inside ++ [side] }
  else s

/-- The first notified thread wakes. -/
def wakeFirst (s : Scenario) (sleeper : Sleeper) : Scenario :=
  let (room, got) := s.room.resume sleeper
  let after := { s with room := room }
  if got then after.obtained sleeper.thread sleeper.side else after

/-- The notified threads run; `fuel` bounds their number. -/
def settle (fuel : Nat) (s : Scenario) : Scenario :=
  match fuel, s.room.firstNotified? with
  | fuel + 1, some sleeper => settle fuel (s.wakeFirst sleeper)
  | _, _ => s

/-- A new thread asks for a side, to stay or not. -/
def request (s : Scenario) (side : Side) (stays : Bool) : Scenario :=
  let thread := s.threads + 1
  let (room, got) := s.room.request thread side
  let after :=
    { s with
      room := room
      threads := thread
      entering := if stays then s.entering ++ [thread] else s.entering }
  if got then after.obtained thread side else after

/-- A step before the woken threads run. -/
def stepRaw (s : Scenario) : Step → Scenario × Option Trouble
  | .acquire side => (s.request side false, none)
  | .enter side => (s.request side true, none)
  | .release side =>
    match s.room.release side with
    | .ok room => ({ s with room := room }, none)
    | .error e => (s, some (.notHeld e))
  | .exit side error? =>
    if side ∈ s.inside then
      let left := { s with inside := s.inside.erase side }
      match s.room.release side with
      | .ok room => ({ left with room := room }, error?.map .raised)
      | .error e => (left, some (.notHeld e))
    else (s, some .nobodyInside)

/-- A step, after which everybody is through or asleep. -/
def step (s : Scenario) (step : Step) : Scenario × Option Trouble :=
  let (after, trouble?) := s.stepRaw step
  (after.settle after.room.sleepers.length, trouble?)

end Scenario

end PackageBuild.Room
