import PackageBuild.Lock.Room

/-!
# Runs of the lock

Any number of threads use the lock, and what they do comes one event after another in any order: a
thread looks at the lock, as a new one or because it was notified, a side is released, rightly or
wrongly, or a waiting thread gives up.

Main results:

- `Run.append`: runs can be put one behind the other.
- `obtained_append` and `released_append`: so can what they did be counted.
-/

namespace PackageBuild.Room

/-- What happens in a room. -/
inductive Event where
  /-- A thread looked at the lock for a side, and got it or not. -/
  | looked (thread : Nat) (side : Side) (got : Bool)
  /-- A side was released. -/
  | released (side : Side)
  /-- A side was to be released that nobody holds. -/
  | refused (side : Side)
  /-- A waiting thread gave up. -/
  | abandoned (thread : Nat) (side : Side)
  deriving DecidableEq, Repr

/-- An event takes a room to another. -/
inductive Moves : Room → Event → Room → Prop where
  /-- A thread that does not wait yet asks for a side. -/
  | request {r : Room} {thread : Nat} (side : Side) (new : ∀ s ∈ r.sleepers, s.thread ≠ thread) :
      Moves r (.looked thread side (r.request thread side).2) (r.request thread side).1
  /-- A notified thread looks again. -/
  | resume {r : Room} {s : Sleeper} (waiting : s ∈ r.sleepers) (notified : s.notified = true) :
      Moves r (.looked s.thread s.side (r.resume s).2) (r.resume s).1
  /-- A held side is released. -/
  | release {r after : Room} {side : Side} (ok : r.release side = .ok after) :
      Moves r (.released side) after
  /-- A side is released that nobody holds. -/
  | refuse {r : Room} {side : Side} {e : Lock.NotHeld} (wrong : r.release side = .error e) :
      Moves r (.refused side) r
  /-- A waiting thread gives up. -/
  | abandon {r : Room} {s : Sleeper} (waiting : s ∈ r.sleepers) :
      Moves r (.abandoned s.thread s.side) (r.abandon s)

/-- Events take a room to another, one after another. -/
inductive Run : Room → List Event → Room → Prop where
  | nil (r : Room) : Run r [] r
  | cons {r next last : Room} {e : Event} {es : List Event} (first : Moves r e next)
      (rest : Run next es last) : Run r (e :: es) last

/-- Runs can be put one behind the other. -/
theorem Run.append {r next last : Room} {es fs : List Event} (h : Run r es next)
    (h' : Run next fs last) : Run r (es ++ fs) last := by
  induction h with
  | nil => exact h'
  | cons first _ ih => exact .cons first (ih h')

/-- How often a side was obtained. -/
def obtained (side : Side) (es : List Event) : Nat :=
  es.countP fun
    | .looked _ s got => got && s = side
    | _ => false

/-- How often a side was released. -/
def released (side : Side) (es : List Event) : Nat := es.count (.released side)

theorem obtained_append (side : Side) (es fs : List Event) :
    obtained side (es ++ fs) = obtained side es + obtained side fs :=
  List.countP_append

theorem released_append (side : Side) (es fs : List Event) :
    released side (es ++ fs) = released side es + released side fs :=
  List.count_append

end PackageBuild.Room
