import PackageBuild.Text.Split
import PackageBuild.Value.Basic

/-!
# Versioned packages

A package name with up to two bounds on its version, so that a range such as `>= 1.1 < 3.0` can be
asked for. The parts are texts, but nothing checks that; empty values of any kind count as missing.

Main results:

- `display_of_texts`: a package of texts is displayed whatever they are.
-/

namespace PackageBuild

/-- A package name with optional bounds on the version. -/
structure VersionedPackage where
  name : Value
  /-- The version of the first bound; empty when there is none. -/
  version : Value := .text ""
  /-- The relation of the first bound; empty for equality. -/
  condition : Value := .text ""
  /-- The version of the second bound; empty when there is none. -/
  secondVersion : Value := .text ""
  /-- The relation of the second bound; empty for equality. -/
  secondCondition : Value := .text ""
  deriving Repr, Inhabited

namespace VersionedPackage

/-- The words of one bound: none without a version, and an equality sign for an empty relation. -/
def boundWords (condition version : Value) : List Value :=
  if version.isEmpty then [] else [if condition.isEmpty then .text "=" else condition, version]

/-- The words of the display text. -/
def words (p : VersionedPackage) : List Value :=
  p.name :: boundWords p.condition p.version ++ boundWords p.secondCondition p.secondVersion

/-- The texts of words from a place on, all of which must be texts. -/
def textsFrom (place : Nat) : List Value → Except Value.Fault (List String)
  | [] => .ok []
  | word :: rest =>
    match word.asText? with
    | none => .error (.notText place word.typeName)
    | some s => (textsFrom (place + 1) rest).map (s :: ·)

/-- The name and the bounds, separated by single blanks. -/
def display (p : VersionedPackage) : Except Value.Fault String :=
  (textsFrom 0 p.words).map (Text.joined " ")

theorem textsFrom_texts (place : Nat) (texts : List String) :
    textsFrom place (texts.map .text) = .ok texts := by
  induction texts generalizing place with
  | nil => rfl
  | cons s rest ih => simp [textsFrom, Value.asText?, ih, Except.map]

/-- A package whose words are texts is displayed whatever they are. -/
theorem display_of_texts {p : VersionedPackage} {texts : List String}
    (h : p.words = texts.map .text) : p.display = .ok (Text.joined " " texts) := by
  simp [display, h, textsFrom_texts, Except.map]

end VersionedPackage

end PackageBuild
