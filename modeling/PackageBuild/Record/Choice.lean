import PackageBuild.Outcome
import PackageBuild.Package.Kind

/-!
# Choices

Three fields of records hold one of a few named members: the kind of a node, its state, and the
outcome of a build unit. A member is known by its written form and shown with its label.

Main results:

- `Choice.member?_text`: a member is found by its written form.
-/

namespace PackageBuild

/-- A set of named members. -/
inductive Choice where
  | kind
  | state
  | outcome
  deriving DecidableEq, Repr

/-- A member of a choice. -/
inductive Member where
  | kind (kind : Kind)
  | state (state : State)
  | outcome (outcome : Outcome)
  deriving DecidableEq, Repr

namespace Member

/-- The choice that a member belongs to. -/
def choice : Member → Choice
  | .kind _ => .kind
  | .state _ => .state
  | .outcome _ => .outcome

/-- The written form. -/
def text : Member → String
  | .kind k => k.text
  | .state s => s.text
  | .outcome o => o.text

/-- The name in capitals. -/
def label : Member → String
  | .kind k => k.label
  | .state s => s.label
  | .outcome o => o.label

end Member

namespace Choice

/-- The name of a choice. -/
def name : Choice → String
  | .kind => "NodeKind"
  | .state => "NodeState"
  | .outcome => "Outcome"

/-- The member with a written form. -/
def member? : Choice → String → Option Member
  | .kind, text => (Kind.ofText? text).map .kind
  | .state, text => (State.ofText? text).map .state
  | .outcome, text => (Outcome.ofText? text).map .outcome

/-- A member is found by its written form. -/
theorem member?_text (m : Member) : m.choice.member? m.text = some m := by
  cases m with
  | kind k => simp [Member.choice, member?, Member.text, Kind.ofText?_text]
  | state s => simp [Member.choice, member?, Member.text, State.ofText?_text]
  | outcome o => simp [Member.choice, member?, Member.text, Outcome.ofText?_text]

end Choice

end PackageBuild
