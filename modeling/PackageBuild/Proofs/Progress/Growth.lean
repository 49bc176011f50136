import PackageBuild.Proofs.Progress.History

/-!
# Growing progress

No update takes back what is known: a node that is cached stays so, a node that need not be built
stays so, and a failure keeps its place in the list.

Main results:

- Theorem `extends_attempt`: an update, refused or not, takes nothing back.
- Theorem `Extends.find?_failures`: the first failure of a unit stays the first one.
-/

namespace PackageBuild.Progress

/-- All that is known in one progress is known in another one. -/
structure Extends (p q : Progress) : Prop where
  cached : ∀ key, (p.flagsOf key).cached = true → (q.flagsOf key).cached = true
  available : ∀ key, (p.flagsOf key).available = true → (q.flagsOf key).available = true
  failures : p.failures <+: q.failures

theorem Extends.refl (p : Progress) : p.Extends p :=
  ⟨fun _ h => h, fun _ h => h, List.prefix_refl _⟩

/-- What is known stays known. -/
theorem Extends.trans {p q r : Progress} (h : p.Extends q) (h' : q.Extends r) : p.Extends r where
  cached key hkey := h'.cached key (h.cached key hkey)
  available key hkey := h'.available key (h.available key hkey)
  failures := h.failures.trans h'.failures

/-- An update takes nothing back. -/
theorem extends_apply (p : Progress) (u : Update) : p.Extends (p.apply u) where
  cached key hkey := by
    rw [flagsOf_apply_eq]
    cases u.cachedAs? key with
    | some delta => rfl
    | none =>
      cases u.marksBuilt key with
      | true => exact hkey
      | false => exact hkey
  available key hkey := by
    rw [flagsOf_apply_eq]
    cases u.cachedAs? key with
    | some delta => rfl
    | none =>
      cases u.marksBuilt key with
      | true => rfl
      | false => exact hkey
  failures := by
    rw [failures_apply]
    exact List.prefix_append _ _

/-- Nor does an update that may be refused. -/
theorem extends_attempt (p : Progress) (u : Update) : p.Extends (p.attempt u) := by
  unfold attempt
  cases u.accepted with
  | true => exact extends_apply p u
  | false => exact .refl p

/-- The first failure of a unit stays the first one. -/
theorem Extends.find?_failures {p q : Progress} (h : p.Extends q) {unit : Value.Key} {f : Failure}
    (hf : (p.failures.find? fun failure => failure.node.buildUnit = unit) = some f) :
    (q.failures.find? fun failure => failure.node.buildUnit = unit) = some f := by
  obtain ⟨later, hlater⟩ := h.failures
  rw [← hlater, List.find?_append, hf, Option.some_or]

end PackageBuild.Progress
