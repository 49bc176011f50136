import PackageBuild.Package.Node
import PackageBuild.Value.Order
import PackageBuild.Value.Display

/-!
# The package graph

Nodes are numbered in the order in which they are added. An edge says that one node must be built
before another; of two nodes there is at most one edge in a direction, and the newest edges come
first. A number stands for the node whose number agrees with it in the last thirty-two bits.

Main results:

- `nodes_addNode` and `nodes_link`: what adding does to the nodes.
- `locate_natural`: a number below `2 ^ 32` is located exactly when it numbers a node.
-/

namespace PackageBuild

/-- Packages to build and to run, and which must come before which. -/
structure Graph where
  /-- The nodes in the order of their numbers. -/
  nodes : List Node := []
  /-- The edges by the numbers of their ends, the newest first. -/
  edges : List (Nat × Nat) := []
  deriving Repr, Inhabited

namespace Graph

/-- Why the graph does not answer. -/
inductive Error where
  /-- Nothing is known under a number, as it is shown. -/
  | unknownNode (shown : String)
  /-- An edge from a node, as it is shown, to itself is asked for. -/
  | selfEdge (shown : String)
  /-- A number has more than sixty-four bits. -/
  | tooWide
  /-- A value of this kind has no order with numbers. -/
  | notComparable (typeName : String)
  /-- A value of this kind is no whole number. -/
  | notWhole (typeName : String)
  deriving DecidableEq, Repr

/-- The text of an error. -/
def Error.message : Error → String
  | unknownNode shown => "Unknown package graph node: " ++ shown ++ "."
  | selfEdge shown => "Self edge on node " ++ shown ++ " is not allowed."
  | tooWide => "int too big to convert"
  | notComparable name =>
    "'<' not supported between instances of '" ++ name ++ "' and 'int'"
  | notWhole name => "'" ++ name ++ "' object cannot be interpreted as an integer"

/-- What a caller names a node by. -/
inductive Reference where
  /-- A node, which is named by its own number. -/
  | node (node : Node)
  /-- Any value; only numbers name nodes. -/
  | value (v : Value)

/-- The value that names the node. -/
def Reference.key : Reference → Value
  | node n => n.id
  | value v => v

/-- Numbers with more bits than this are too wide. -/
def widthBound : Nat := Nat.pow 2 64

/-- Numbers count modulo this bound. -/
def indexBound : Nat := Nat.pow 2 32

/-- The place of a number in the list of nodes; `none` when no node is there. -/
def index? (g : Graph) (n : Nat) : Option Nat :=
  let place := n % indexBound
  if place < g.nodes.length then some place else none

/-- Whether a value is below zero. -/
def isNegative (v : Value) : Except Error Bool :=
  match v.asReal? with
  | some x => .ok (x.compare? (.whole 0) = some .lt)
  | none => .error (.notComparable v.typeName)

/-- The place of the node that a value names. -/
def locate (g : Graph) (key : Value) : Except Error Nat := do
  if ← isNegative key then throw (.unknownNode key.display)
  match key.asInt? with
  | none => throw (.notWhole key.typeName)
  | some n =>
    if widthBound ≤ n.toNat then throw .tooWide
    match g.index? n.toNat with
    | some place => return place
    | none => throw (.unknownNode key.display)

/-- The node that a value names. -/
def node (g : Graph) (key : Value) : Except Error Node := do
  let place ← g.locate key
  match g.nodes[place]? with
  | some n => return n
  | none => throw (.unknownNode key.display)

/-- Whether a value numbers a node; what is no whole number does not. -/
def contains (g : Graph) (key : Value) : Except Error Bool :=
  match key.asInt? with
  | none => .ok false
  | some n =>
    if n < 0 then .ok false
    else if widthBound ≤ n.toNat then .error .tooWide
    else .ok (g.index? n.toNat).isSome

/-- What is known of a node before it is added. -/
structure NewNode where
  kind : Kind
  state : State := .build
  package : Value
  source : Value
  binaryPath : Value := .text ""
  architecture : Value := .text ""
  deriving Repr

/-- A node with its number. -/
def NewNode.numbered (new : NewNode) (id : Nat) : Node :=
  ⟨.int id, new.kind, new.state, new.package, new.source, new.binaryPath, new.architecture⟩

/-- Add a node, which gets the next number. -/
def addNode (g : Graph) (new : NewNode) : Graph × Node :=
  let n := new.numbered g.nodes.length
  ({ g with nodes := g.nodes ++ [n] }, n)

/-- Add an edge between two places; an edge that is there keeps its place. -/
def link (g : Graph) (before after : Nat) : Graph :=
  if (before, after) ∈ g.edges then g else { g with edges := (before, after) :: g.edges }

/-- Add the edge that says that one node must be built before another. -/
def addEdge (g : Graph) (before after : Reference) : Except Error Graph := do
  let source ← g.locate before.key
  let target ← g.locate after.key
  if before.key.same after.key then throw (.selfEdge before.key.messageText)
  return g.link source target

/-- The nodes to build, in order. -/
def buildNodes (g : Graph) : List Node := g.nodes.filter Node.isBuild

/-- The nodes to have at run time, in order. -/
def runNodes (g : Graph) : List Node := g.nodes.filter Node.isRun

/-- The places of the nodes with an edge to a place, the newest edge first. -/
def predecessorPlaces (g : Graph) (place : Nat) : List Nat :=
  g.edges.filterMap fun edge => if edge.2 = place then some edge.1 else none

/-- The nodes that must be built before a node, the newest edge first. -/
def predecessors (g : Graph) (reference : Reference) : Except Error (List Node) := do
  let place ← g.locate reference.key
  return (g.predecessorPlaces place).filterMap fun p => g.nodes[p]?

@[simp] theorem nodes_addNode (g : Graph) (new : NewNode) :
    (g.addNode new).1.nodes = g.nodes ++ [new.numbered g.nodes.length] := rfl

@[simp] theorem edges_addNode (g : Graph) (new : NewNode) : (g.addNode new).1.edges = g.edges := rfl

@[simp] theorem nodes_link (g : Graph) (before after : Nat) :
    (g.link before after).nodes = g.nodes := by
  unfold link
  split <;> rfl

/-- A natural number is not below zero. -/
theorem isNegative_natural (n : Nat) : isNegative (.int n) = .ok false := by
  have : compare (n : Int) 0 ≠ .lt := by
    rw [ne_eq, Int.compare_eq_lt]
    omega
  simp [isNegative, Value.asReal?, Value.Real.compare?, this]

/-- A natural number below `2 ^ 32` is located exactly when it numbers a node. -/
theorem locate_natural (g : Graph) {n : Nat} (h : n < indexBound) :
    g.locate (.int n) =
      if n < g.nodes.length then .ok n else .error (.unknownNode (Value.int n).display) := by
  have hwide : ¬widthBound ≤ n := by
    have : indexBound ≤ widthBound := by decide
    omega
  have hmod : n % indexBound = n := Nat.mod_eq_of_lt h
  simp only [locate, isNegative_natural, Value.asInt?, index?, Int.toNat_natCast, hmod]
  by_cases hn : n < g.nodes.length <;>
    simp [hn, hwide, bind, Except.bind, pure, Except.pure, throw, throwThe, MonadExceptOf.throw]

end Graph

end PackageBuild
