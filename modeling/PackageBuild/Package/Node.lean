import PackageBuild.Path
import PackageBuild.Value.Key

/-!
# Nodes of the package graph

A node is a piece of work on a package: building it from its source archive, or having it present
for something else to run. Nodes that share a source archive belong to one build unit. The parts of
a node are not checked when it is made; `pathFault?` decides whether its source archive can be
named.

Main results:

- `isRun_eq_not_isBuild`: a node is of exactly one of the two kinds.
-/

namespace PackageBuild

/-- A node of the package graph. -/
structure Node where
  id : Value
  kind : Kind
  state : State
  package : Value
  /-- The path of the source archive, which names the build unit. -/
  source : Value
  binaryPath : Value := .text ""
  architecture : Value := .text ""
  deriving Repr

namespace Node

/-- A node as a value. -/
def toValue (n : Node) : Value :=
  .record .node
    [n.id, .member (.kind n.kind), .member (.state n.state), n.package, n.source, n.binaryPath,
      n.architecture]

/-- The node of a value. -/
def ofValue? : Value → Option Node
  | .record .node
      [id, .member (.kind kind), .member (.state state), package, source, binaryPath,
        architecture] =>
    some ⟨id, kind, state, package, source, binaryPath, architecture⟩
  | _ => none

@[simp] theorem ofValue?_toValue (n : Node) : ofValue? n.toValue = some n := rfl

/-- Whether two nodes have equal parts. -/
def same (m n : Node) : Bool := m.toValue.same n.toValue

/-- What progress knows the node by. -/
def key (n : Node) : Value.Key := .ofValue n.id

/-- Why progress cannot know the node, if it cannot. -/
def idFault? (n : Node) : Option Value.Fault := Value.Key.fault? n.id

/-- The build unit that the node belongs to. -/
def buildUnit (n : Node) : Value.Key := .ofValue n.source

/-- Why the node can belong to no build unit, if it cannot. -/
def unitFault? (n : Node) : Option Value.Fault := Value.Key.fault? n.source

/-- The text of the path of the source archive. -/
def sourcePath (n : Node) : String := n.source.messageText

/-- The file name of the source archive. -/
def fileName (n : Node) : String := Path.baseName n.sourcePath

/-- What is wrong with the path of the source archive, if anything. -/
def pathFault? (n : Node) : Option Value.Fault :=
  match n.source.toPath with
  | .ok _ => none
  | .error fault => some fault

/-- The text of the package. -/
def packageText (n : Node) : Except Value.Fault String := n.package.plainText

/-- What is wrong with the package, if anything. -/
def packageFault? (n : Node) : Option Value.Fault :=
  match n.packageText with
  | .ok _ => none
  | .error fault => some fault

/-- The package with the kind in capitals behind it. -/
def friendlyName (n : Node) : String := n.package.messageText ++ "(" ++ n.kind.label ++ ")"

/-- Whether the node is built from source. -/
def isBuild (n : Node) : Bool := n.kind = .build

/-- Whether the node is a requirement at run time. -/
def isRun (n : Node) : Bool := n.kind = .run

/-- Whether graph construction found nothing for the node. -/
def isUnresolved (n : Node) : Bool := n.state = .unresolved

/-- A node is of exactly one of the two kinds. -/
theorem isRun_eq_not_isBuild (n : Node) : n.isRun = !n.isBuild := by
  cases h : n.kind <;> simp [isRun, isBuild, h]

end Node

end PackageBuild
