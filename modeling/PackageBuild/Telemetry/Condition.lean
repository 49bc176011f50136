import PackageBuild.Graph.Basic
import PackageBuild.Value.Key

/-!
# Conditions

The ways in which an activity stops before its end. All are failures but an interruption, which
asks the whole program to stop.
-/

namespace PackageBuild

/-- The family of a signal, which decides how its arguments become its message. -/
inductive Signal.Family where
  | plain (name : String)
  | lookup
  /-- The operating system refused, usually with a number and a text. -/
  | system
  /-- A request to stop the whole program, of a named kind. -/
  | interruption (name : String)
  deriving DecidableEq, Repr

/-- The names of requests to stop the whole program. -/
def Signal.interruptions : List String :=
  ["KeyboardInterrupt", "SystemExit", "GeneratorExit", "BaseException"]

/-- The family of a name. -/
def Signal.Family.ofName (name : String) : Signal.Family :=
  if name = "KeyError" then .lookup
  else if name = "OSError" then .system
  else if name ∈ interruptions then .interruption name
  else .plain name

/-- Something raised by the code that a span is put around. -/
structure Signal where
  family : Signal.Family
  arguments : List Value
  deriving Repr

namespace Signal

/-- The arguments as a text: nothing, the only one, or all of them as a tuple. -/
def argumentsText : List Value → String
  | [] => ""
  | [v] => v.messageText
  | items => (Value.tuple items).display

/-! ## Refusals of the operating system -/

/-- What a refusal of the operating system is about. -/
structure System where
  number : Value
  text : Value
  file? : Option Value
  second? : Option Value

/-- A value that is something. -/
def given? : Option Value → Option Value
  | some .null | none => none
  | some v => some v

/-- The refusal that two to five arguments describe; the fourth one is left out. -/
def system? : List Value → Option System
  | number :: text :: rest =>
    if 3 < rest.length then none
    else some ⟨number, text, given? rest[0]?, given? rest[2]?⟩
  | _ => none

/-- The numbers of refusals that hold how much was done instead of a file. -/
def blockingNumbers : List Int := [11, 114, 115]

/-- Whether a value counts as a number of things done. -/
def isAmount : Value → Bool
  | .bool _ | .int _ | .float _ | .complex .. => true
  | _ => false

/-- The amount that a refusal holds instead of a file. -/
def System.amount? (r : System) : Option Value :=
  match r.number.asInt?, r.file? with
  | some n, some v => if n ∈ blockingNumbers && isAmount v then some v else none
  | _, _ => none

/-- The text of a refusal: the number, what it means, and the files. -/
def System.message (r : System) : String :=
  let front := "[Errno " ++ r.number.messageText ++ "] " ++ r.text.messageText
  match r.amount?, r.file?, r.second? with
  | none, some file, some second => front ++ ": " ++ file.display ++ " -> " ++ second.display
  | none, some file, none => front ++ ": " ++ file.display
  | _, _, _ => front

/-- Whether an integer fits into an index. -/
def fitsIndex (n : Int) : Bool := decide (-(Nat.pow 2 63 : Int) ≤ n ∧ n < Nat.pow 2 63)

/-- What is wrong with the amount of a refusal, if anything. -/
def System.amountFault? (r : System) : Option Value.Fault :=
  r.amount?.bind fun v =>
    match v.asInt? with
    | some n => if fitsIndex n then none else some .indexTooLarge
    | none => some (.notInteger v.typeName)

/-- The refusal of the operating system that the signal is about. -/
def refusal? (s : Signal) : Option System :=
  match s.family with
  | .system => system? s.arguments
  | _ => none

/-- The text of a signal. -/
def message (s : Signal) : String :=
  match s.refusal?, s.family, s.arguments with
  | some r, _, _ => r.message
  | none, .lookup, [key] => key.display
  | none, _, arguments => argumentsText arguments

/-- The numbers of refusals with a name of their own. -/
def numberNames : List (Int × String) :=
  [(1, "PermissionError"), (2, "FileNotFoundError"), (3, "ProcessLookupError"),
   (4, "InterruptedError"), (10, "ChildProcessError"), (11, "BlockingIOError"),
   (13, "PermissionError"), (17, "FileExistsError"), (20, "NotADirectoryError"),
   (21, "IsADirectoryError"), (32, "BrokenPipeError"), (103, "ConnectionAbortedError"),
   (104, "ConnectionResetError"), (108, "BrokenPipeError"), (110, "TimeoutError"),
   (111, "ConnectionRefusedError"), (114, "BlockingIOError"), (115, "BlockingIOError")]

/-- The name of a signal; a refusal of the operating system goes by its number. -/
def name (s : Signal) : String :=
  match s.family with
  | .plain name | .interruption name => name
  | .lookup => "KeyError"
  | .system =>
    let number? := s.refusal?.bind fun r => r.number.asInt?
    (number?.bind fun n => numberNames.lookup n).getD "OSError"

/-- Whether a signal is a failure. -/
def isFailure (s : Signal) : Bool :=
  match s.family with
  | .interruption _ => false
  | _ => true

end Signal

/-- Why an activity stopped before its end. -/
inductive Condition where
  | signal (signal : Signal)
  | fault (fault : Value.Fault)
  | stageMissing
  | keyMissing (shown : String)
  | nullInPath
  /-- A home directory is asked for that nobody knows. -/
  | homeUnknown
  | graph (error : Graph.Error)
  deriving Repr

namespace Condition

/-- The condition that raising a signal leads to; one that cannot be made is a fault. -/
def ofSignal (s : Signal) : Condition :=
  match s.refusal?.bind Signal.System.amountFault? with
  | some f => .fault f
  | none => .signal s

/-- The text of a condition. -/
def message : Condition → String
  | signal s => s.message
  | fault f => f.message
  | stageMissing => "stage_span() missing 1 required keyword-only argument: 'stage'"
  | keyMissing shown => shown
  | nullInPath => "embedded null byte"
  | homeUnknown => "Could not determine home directory."
  | graph error => error.message

/-- Whether a condition is a failure. -/
def isFailure : Condition → Bool
  | signal s => s.isFailure
  | _ => true

end Condition

end PackageBuild
