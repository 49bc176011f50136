import PackageBuild.Log
import PackageBuild.OrderedMap
import PackageBuild.Path
import PackageBuild.Text.Blank
import PackageBuild.Text.Quoted
import PackageBuild.Value.Items
import PackageBuild.Value.Named

/-!
# The process environment

Settings are read from environment variables. Blanks around a value do not count, and a blank value
counts as none. A path may begin at somebody's home directory.

Main definitions:

- `Environment.value?`: the value of a variable.
- `Environment.readSwitch` and `Environment.readPath`: a switch and a path from their variables.
-/

namespace PackageBuild

/-- The variables of a process, and the home directories of the users that the system knows. -/
structure Environment where
  settings : OrderedMap String String
  homes : OrderedMap String String

namespace Environment

/-- The variable that names the home directory. -/
def homeVariable : String := "HOME"

/-- The environment with some variables set, on a system that knows no users. -/
def ofSettings (settings : List (String × String)) : Environment where
  settings := .ofList settings
  homes := .empty

/-- Why a variable is not set. -/
inductive Unset where
  | fault (fault : Value.Fault)
  | null
  | equalsSign
  | noName
  deriving DecidableEq, Repr

/-- The text about a variable that is not set. -/
def Unset.message : Unset → String
  | fault f => f.message
  | null => "embedded null byte"
  | equalsSign => "illegal environment variable name"
  | noName => "[Errno 22] Invalid argument"

/-- A variable with its value, if it can be set. -/
def setting (name : String) (v : Value) : Except Unset (String × String) := do
  let text ← v.systemText.mapError .fault
  if '\x00' ∈ name.toList ++ text.toList then throw .null
  if '=' ∈ name.toList then throw .equalsSign
  if name = "" then throw .noName
  return (name, text)

/-- The environment with variables set to values. -/
def ofNamed (given : Named) : Except Unset Environment :=
  (given.mapM fun (name, v) => setting name v).map ofSettings

/-- The value of a variable without the blanks around it; a blank value counts as none. -/
def value? (e : Environment) (name : String) : Option String :=
  ((e.settings.find? name).map Text.strip).filter (· ≠ "")

/-! ## Switches -/

/-- What stands for a value that is no switch. -/
inductive OnInvalid where
  | default
  | nothing
  | no
  deriving DecidableEq, Repr

/-- The texts that mean yes. -/
def yesTexts : List String := ["1", "true", "yes", "y"]

/-- The texts that mean no. -/
def noTexts : List String := ["0", "false", "no", "n"]

/-- The switch that a text writes, in whatever case. No character beyond ASCII becomes a letter of
one of these words in lower case, so the ASCII letters are enough. -/
def switch? (text : String) : Option Bool :=
  let lower := String.ofList (text.toList.map Char.toLower)
  if lower ∈ yesTexts then some true else if lower ∈ noTexts then some false else none

/-- The logger of settings. -/
def logger : String := "utils.env_utils"

/-- A switch that may be unset or invalid, and what reading it logs. `wrap` tells a switch that may
be nothing, and the default is of the same type. -/
def readSwitchAs {β : Type} (wrap : Option Bool → β) (e : Environment) (name : String) (default : β)
    (onInvalid : OnInvalid) (logInvalid : Bool) : β × List Log.Record :=
  match e.value? name with
  | none => (default, [])
  | some text =>
    match switch? text with
    | some b => (wrap (some b), [])
    | none =>
      let records :=
        if logInvalid then
          Log.record logger Log.warning
            ("Invalid boolean for " ++ name ++ ": " ++ Text.quoted text)
        else []
      match onInvalid with
      | .default => (default, records)
      | .nothing => (wrap none, records)
      | .no => (wrap (some false), records)

/-- The value of a switch that may be unset or invalid, and what reading it logs. -/
def readSwitch (e : Environment) (name : String) (default? : Option Bool)
    (onInvalid : OnInvalid) (logInvalid : Bool) : Option Bool × List Log.Record :=
  readSwitchAs id e name default? onInvalid logInvalid

/-- What stands for an invalid switch, read from a value. -/
def OnInvalid.ofValue (v : Value) : OnInvalid :=
  match v.asText? with
  | some "none" => .nothing
  | some "false" => .no
  | _ => .default

/-- The arguments that the reading of a switch takes by name. -/
def switchArguments : List String := ["default", "on_invalid", "log_invalid"]

/-! ## Paths -/

/-- The arguments that the reading of a path takes by name. -/
def pathArguments : List String := ["default"]

/-- A path that begins at a home directory which nobody knows. -/
structure HomeUnknown where
  deriving DecidableEq, Repr

/-- A text without the slashes at its end, or a single slash. -/
def trimSlashes (s : List Char) : List Char :=
  match (s.reverse.dropWhile (· == '/')).reverse with
  | [] => ['/']
  | trimmed => trimmed

/-- The home directory of a user, by name, or without a name that of the process. A process without
the variable has none: whom it runs for is not looked up. -/
def homeOf? (e : Environment) (user : String) : Option String :=
  if user = "" then e.settings.find? homeVariable else e.homes.find? user

/-- A relative path whose first component is a tilde and the name of a user begins at the home
directory of the user. -/
def expandHome (e : Environment) (path : Path) : Except HomeUnknown Path :=
  match path.anchor, path.parts with
  | .relative, ('~' :: user) :: rest =>
    match e.homeOf? (String.ofList user) with
    | none => .error ⟨⟩
    | some home =>
      match trimSlashes home.toList with
      | '~' :: _ => .error ⟨⟩
      | directory =>
        let start := Path.ofChars directory
        .ok { start with parts := start.parts ++ rest }
  | _, _ => .ok path

/-- The path of a setting, or the default. -/
def readPath (e : Environment) (name : String) (default? : Option Path) :
    Except HomeUnknown (Option Path) :=
  match e.value? name with
  | none => .ok default?
  | some text => (e.expandHome (Path.ofText text)).map some

end Environment

end PackageBuild
