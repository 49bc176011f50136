import PackageBuild.Proofs.Graph.Locating
import PackageBuild.Proofs.Record.Shape

/-!
# Equal records

Values may be equal without being the same, as a number and a truth value are.  Nodes and failures
whose parts have the shapes that the schema names are equal only when they are the same.

Main results:

- Theorems `Node.Typed.eq_of_same` and `Failure.Typed.eq_of_same`.
-/

namespace PackageBuild

/-! ## Equal parts -/

namespace Value

/-- Equal texts are the same. -/
theorem eq_of_same_text {s t : String} (h : (text s).same (text t) = true) : s = t := by
  rwa [same_text, beq_iff_eq] at h

/-- Equal integers are the same. -/
theorem eq_of_same_int {m n : Int} (h : (int m).same (int n) = true) : m = n :=
  (same_iff_of_asInt? rfl rfl).1 h

/-- Kinds with equal written forms are the same. -/
theorem eq_of_same_kind {k l : Kind} (h : (member (.kind k)).same (member (.kind l)) = true) :
    k = l := by
  revert h
  cases k <;> cases l <;> decide

/-- States with equal written forms are the same. -/
theorem eq_of_same_state {s t : State} (h : (member (.state s)).same (member (.state t)) = true) :
    s = t := by
  revert h
  cases s <;> cases t <;> decide

/-- Equal packages are the same. -/
theorem eq_of_same_package {v w : Value} (hv : HasShape (.record .package) v)
    (hw : HasShape (.record .package) w) (h : v.same w = true) : v = w := by
  obtain ⟨name, version, condition, secondVersion, secondCondition, rfl⟩ :=
    hasShape_package_iff.1 hv
  obtain ⟨name', version', condition', secondVersion', secondCondition', rfl⟩ :=
    hasShape_package_iff.1 hw
  simp only [same, sameItems, Bool.and_eq_true, decide_true, true_and, and_true] at h
  obtain ⟨hname, hversion, hcondition, hsecondVersion, hsecondCondition⟩ := h
  rw [eq_of_same_text hname, eq_of_same_text hversion, eq_of_same_text hcondition,
    eq_of_same_text hsecondVersion, eq_of_same_text hsecondCondition]

end Value

/-! ## Equal nodes and failures -/

/-- Equal nodes are the same. -/
theorem Node.Typed.eq_of_same {m n : Node} (hm : m.Typed) (hn : n.Typed) (h : m.same n = true) :
    m = n := by
  obtain ⟨id, kind, state, package, source, binaryPath, architecture⟩ := m
  obtain ⟨id', kind', state', package', source', binaryPath', architecture'⟩ := n
  obtain ⟨⟨_, rfl⟩, hpackage, ⟨_, rfl⟩, ⟨_, rfl⟩, ⟨_, rfl⟩⟩ := Node.typed_iff.1 hm
  obtain ⟨⟨_, rfl⟩, hpackage', ⟨_, rfl⟩, ⟨_, rfl⟩, ⟨_, rfl⟩⟩ := Node.typed_iff.1 hn
  simp only [Node.same, Node.toValue, Value.same, Value.sameItems, Bool.and_eq_true, decide_true,
    true_and, and_true] at h
  obtain ⟨hid, hkind, hstate, hsame, hsource, hbinaryPath, harchitecture⟩ := h
  have hpackages : package = package' := Value.eq_of_same_package hpackage hpackage' hsame
  rw [Value.eq_of_same_int hid, Value.eq_of_same_kind hkind, Value.eq_of_same_state hstate,
    hpackages, Value.eq_of_same_text hsource, Value.eq_of_same_text hbinaryPath,
    Value.eq_of_same_text harchitecture]

/-- Equal failures are the same. -/
theorem Failure.Typed.eq_of_same {e f : Failure} (he : e.Typed) (hf : f.Typed)
    (h : e.same f = true) : e = f := by
  obtain ⟨node, error, logFile⟩ := e
  obtain ⟨node', error', logFile'⟩ := f
  obtain ⟨hnode, ⟨_, rfl⟩, ⟨_, rfl⟩⟩ := Failure.typed_iff.1 he
  obtain ⟨hnode', ⟨_, rfl⟩, ⟨_, rfl⟩⟩ := Failure.typed_iff.1 hf
  simp only [Failure.same, Failure.toValue, Value.same, Value.sameItems, Bool.and_eq_true,
    decide_true, true_and, and_true] at h
  obtain ⟨hsame, herror, hlogFile⟩ := h
  have hnodes : node = node' := hnode.eq_of_same hnode' hsame
  rw [hnodes, Value.eq_of_same_text herror, Value.eq_of_same_text hlogFile]

end PackageBuild
