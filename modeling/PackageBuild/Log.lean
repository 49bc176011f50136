/-!
# Log records

What a program logs while it runs: a message with a level under the name of a logger. Records
below the threshold are not let out.

Main results:

- `record_of_le`: a record at the threshold or above is let out.
-/

namespace PackageBuild.Log

/-- A message with its level and the name of its logger. -/
structure Record where
  logger : String
  level : Int
  message : String
  deriving DecidableEq, Repr

/-- The level of details. -/
def debug : Int := 10

/-- The level of plain news. -/
def info : Int := 20

/-- The level of things to look at. -/
def warning : Int := 30

/-- The level of failures. -/
def error : Int := 40

/-- The level of failures that stop the program. -/
def critical : Int := 50

/-- Records below this level are not let out. -/
def threshold : Int := debug

/-- The records that a message at a level makes: one, or none below the threshold. -/
def record (logger : String) (level : Int) (message : String) : List Record :=
  if threshold ≤ level then [⟨logger, level, message⟩] else []

theorem record_of_le {level : Int} (h : threshold ≤ level) (logger message : String) :
    record logger level message = [⟨logger, level, message⟩] := if_pos h

end PackageBuild.Log
