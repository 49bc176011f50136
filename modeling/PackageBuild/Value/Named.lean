import PackageBuild.Value.Basic

/-!
# Named arguments

Some operations are given their arguments by name. An argument whose name the operation does not
know is refused, and so is one that the operation has already.
-/

namespace PackageBuild

/-- Values under names. -/
abbrev Named := List (String × Value)

namespace Named

/-- Why an argument is not taken. -/
inductive Refusal where
  | unexpected (name : String)
  | repeated (name : String)
  deriving DecidableEq, Repr

/-- The text of a refusal by an operation. -/
def Refusal.message (operation : String) : Refusal → String
  | unexpected name => operation ++ "() got an unexpected keyword argument '" ++ name ++ "'"
  | repeated name => operation ++ "() got multiple values for argument '" ++ name ++ "'"

/-- The refusal of the first argument that is not taken, given the names that are taken and those
that the operation has already. -/
def refusal? (names had : List String) (arguments : Named) : Option Refusal :=
  (arguments.find? fun argument => !names.contains argument.1).map fun (name, _) =>
    if name ∈ had then .repeated name else .unexpected name

/-- The value under a name, or a default. -/
def valueD (arguments : Named) (name : String) (fallback : Value) : Value :=
  (arguments.lookup name).getD fallback

end Named

end PackageBuild
