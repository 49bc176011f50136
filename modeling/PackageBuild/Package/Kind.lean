/-!
# Kinds and states of nodes

What work a node of the package graph stands for, and what graph construction found out about it.

Main results:

- `Kind.ofText?_text` and `State.ofText?_text`: every written form reads back.
-/

namespace PackageBuild

/-- The kind of work that a node stands for. -/
inductive Kind where
  | build
  | run
  deriving DecidableEq, Repr, Inhabited

namespace Kind

/-- The written form. -/
def text : Kind → String
  | build => "build"
  | run => "run"

/-- The name in capitals. -/
def label : Kind → String
  | build => "BUILD"
  | run => "RUN"

/-- Both kinds. -/
def all : List Kind := [build, run]

/-- The kind of a written form. -/
def ofText? (text : String) : Option Kind := all.find? fun kind => kind.text == text

theorem ofText?_text (kind : Kind) : ofText? kind.text = some kind := by
  cases kind <;> decide

end Kind

/-- What graph construction found out about a node. -/
inductive State where
  | metapackage
  | build
  | upToDate
  | unresolved
  | cached
  deriving DecidableEq, Repr, Inhabited

namespace State

/-- The written form. -/
def text : State → String
  | metapackage => "meta"
  | build => "build"
  | upToDate => "up-to-date"
  | unresolved => "unresolved"
  | cached => "cached"

/-- The name in capitals. -/
def label : State → String
  | metapackage => "META"
  | build => "BUILD"
  | upToDate => "UP_TO_DATE"
  | unresolved => "UNRESOLVED"
  | cached => "CACHED"

/-- All states. -/
def all : List State := [metapackage, build, upToDate, unresolved, cached]

/-- The state of a written form. -/
def ofText? (text : String) : Option State := all.find? fun state => state.text == text

theorem ofText?_text (state : State) : ofText? state.text = some state := by
  cases state <;> decide

end State

end PackageBuild
