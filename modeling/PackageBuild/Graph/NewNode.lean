import PackageBuild.Graph.Basic
import PackageBuild.Record.Construct
import PackageBuild.Value.Named

/-!
# Adding nodes by named arguments

A node is added with named arguments. Its kind, its package and the path of its source archive are
needed, and its number is not among them: the graph gives it.
-/

namespace PackageBuild.Graph.NewNode

/-- The arguments that are needed. -/
def requiredNames : List String := ["kind", "versioned_pkg", "srpm_path"]

/-- The arguments that may be left out. -/
def optionalNames : List String := ["state", "rpm_path", "architecture"]

/-- Why arguments make no node. -/
inductive Refusal where
  | unnamed (refusal : Named.Refusal)
  | missing (names : List String)
  /-- The kind or the state is no member of its choice. -/
  | misfit (name : String)
  deriving DecidableEq, Repr

/-- Names in a row with commas and a conjunction. -/
def enumerate : List String → String
  | [] => ""
  | [a] => a
  | [a, b] => a ++ " and " ++ b
  | a :: b :: rest => a ++ ", " ++ enumerateRest b rest
where
  /-- The names behind the first of at least three. -/
  enumerateRest (b : String) : List String → String
    | [] => b
    | [c] => b ++ ", and " ++ c
    | c :: rest => b ++ ", " ++ enumerateRest c rest

/-- The text of a refusal. -/
def Refusal.message : Refusal → String
  | unnamed refusal => refusal.message "PkgGraph.add_node"
  | missing names =>
    "PkgGraph.add_node() missing " ++ Text.naturalText names.length ++
      " required keyword-only argument" ++ (if names.length = 1 then "" else "s") ++ ": " ++
      enumerate (names.map fun name => "'" ++ name ++ "'")
  | misfit name => "PkgGraph.add_node() takes no such value for '" ++ name ++ "'"

/-- The node that arguments describe. -/
def ofArguments (arguments : Named) : Except Refusal NewNode := do
  let given (name : String) : Option Value := Record.argument? name arguments
  if let some refusal := arguments.refusal? (requiredNames ++ optionalNames) ["self"] then
    throw (.unnamed refusal)
  let missing := requiredNames.filter fun name => (given name).isNone
  if !missing.isEmpty then throw (.missing missing)
  let some (.member (.kind kind)) := given "kind" | throw (.misfit "kind")
  let state ← match given "state" with
    | none => pure State.build
    | some (.member (.state state)) => pure state
    | some _ => throw (.misfit "state")
  let part (name : String) : Value := (given name).getD (.text "")
  return ⟨kind, state, part "versioned_pkg", part "srpm_path", part "rpm_path",
    part "architecture"⟩

end PackageBuild.Graph.NewNode
