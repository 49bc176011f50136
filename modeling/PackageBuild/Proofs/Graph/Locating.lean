import PackageBuild.Proofs.Attempt
import PackageBuild.Graph.Basic

/-!
# Numbers that name nodes

A number names the node at the place that it counts for, which its last thirty-two bits decide.
Below `2 ^ 32` it names the node that has it, and every other number there names none.

Main results:

- Theorems `locate_eq_ok_iff_counts` and `locate_eq_unknownNode_iff`: which node a number names, and
  which numbers name none.
- Theorem `locate_eq_ok_iff`: which node a narrow reference names.
- Theorems `addEdge_eq_ok_iff_counts` and `addEdge_eq_ok_iff`: when an edge is added, and what the
  graph is then.
- Theorem `predecessors_eq`: what comes before a node, as places.
-/

namespace PackageBuild

namespace Value

/-- Integers and truth values are equal as numbers. -/
theorem same_iff_of_asInt? {x y : Value} {m n : Int} (hx : x.asInt? = some m)
    (hy : y.asInt? = some n) : x.same y = true ↔ m = n := by
  have hcompare (m n : Int) : Real.same (.whole m) (.whole n) = true ↔ m = n := by
    simp [Real.same, Real.compare?]
  have hzero : Real.same (.whole 0) (.whole 0) = true := rfl
  cases x <;> cases hx <;> cases y <;> cases hy <;>
    simp [same, sameAtom, asText?, asComplex?, asReal?, hcompare, hzero]

end Value

namespace Graph

variable {g g' : Graph} {key : Value} {n : Int} {place : Nat} {before after reference : Reference}

/-- A reference names a node by a number below `2 ^ 32`, if it does so by a number at all. -/
def Reference.Narrow (reference : Reference) : Prop :=
  ∀ n, reference.key.asInt? = some n → n < indexBound

/-- Whether a whole number is negative. -/
theorem isNegative_of_asInt? (h : key.asInt? = some n) :
    isNegative key = .ok (decide (n < 0)) := by
  have hcompare (n : Int) : isNegative (.int n) = .ok (decide (n < 0)) := by
    simp [isNegative, Value.asReal?, Value.Real.compare?, Int.compare_eq_lt]
  cases key with
  | int m =>
    cases h
    exact hcompare n
  | bool b =>
    cases b <;> cases h <;> rfl
  | _ => contradiction

/-- What is no whole number names no node. -/
theorem locate_ne_ok_of_asInt?_eq_none (h : key.asInt? = none) : g.locate key ≠ .ok place := by
  rw [locate, h]
  intro hlocate
  obtain ⟨negative, -, hrest⟩ := Attempt.bind_eq_ok_iff.1 hlocate
  cases negative <;> simp [throw, throwThe, MonadExceptOf.throw, bind, Except.bind] at hrest

/-- What a whole number names is decided by its width and by its last thirty-two bits. -/
theorem locate_of_asInt? (h : key.asInt? = some n) :
    g.locate key =
      if n < 0 then .error (.unknownNode key.display)
      else if widthBound ≤ n.toNat then .error .tooWide
      else if n.toNat % indexBound < g.nodes.length then .ok (n.toNat % indexBound)
      else .error (.unknownNode key.display) := by
  rw [locate, isNegative_of_asInt? h, h]
  by_cases hnegative : n < 0
  · simp [hnegative, bind, Except.bind, throw, throwThe, MonadExceptOf.throw]
  · by_cases hwide : widthBound ≤ n.toNat
    · simp [hnegative, hwide, bind, Except.bind, throw, throwThe, MonadExceptOf.throw]
    · by_cases hplace : n.toNat % indexBound < g.nodes.length <;>
        simp [hnegative, hwide, hplace, index?, bind, Except.bind, pure, Except.pure, throw,
          throwThe, MonadExceptOf.throw]

/-! ## What a number counts for -/

/-- A number counts for a place: it has at most sixty-four bits, of which the last thirty-two are
the place. -/
structure Counts (n : Int) (place : Nat) : Prop where
  nonneg : 0 ≤ n
  narrow : n < widthBound
  agrees : n % indexBound = place

/-- When a number counts for a place, by its natural number. -/
theorem counts_iff : Counts n place ↔ 0 ≤ n ∧ n < widthBound ∧ n.toNat % indexBound = place := by
  have hagrees : 0 ≤ n → ((n.toNat % indexBound : Nat) : Int) = n % indexBound := fun h => by
    rw [Int.natCast_emod, Int.toNat_of_nonneg h]
  constructor
  · rintro ⟨hnonneg, hnarrow, h⟩
    exact ⟨hnonneg, hnarrow, Int.ofNat_inj.1 ((hagrees hnonneg).trans h)⟩
  · rintro ⟨hnonneg, hnarrow, rfl⟩
    exact ⟨hnonneg, hnarrow, (hagrees hnonneg).symm⟩

/-- A place below `2 ^ 32` is counted for by its own number. -/
theorem counts_self (h : place < indexBound) : Counts place place where
  nonneg := Int.natCast_nonneg place
  narrow := by
    have : indexBound ≤ widthBound := by decide
    omega
  agrees := Int.emod_eq_of_lt (Int.natCast_nonneg place) (Int.ofNat_lt.2 h)

/-- A place that a number counts for has thirty-two bits. -/
theorem Counts.lt_indexBound (h : Counts n place) : place < indexBound := by
  have hpos : (0 : Int) < indexBound := by decide
  have hlt := Int.emod_lt_of_pos n hpos
  rw [h.agrees] at hlt
  exact Int.ofNat_lt.1 hlt

/-- A number counts for one place at most. -/
theorem Counts.eq {place' : Nat} (h : Counts n place) (h' : Counts n place') : place = place' :=
  Int.ofNat_inj.1 (h.agrees.symm.trans h'.agrees)

/-- A number below `2 ^ 32` counts for itself only. -/
theorem counts_iff_of_lt (h : n < indexBound) : Counts n place ↔ n = place := by
  constructor
  · intro hcounts
    rw [← hcounts.agrees, Int.emod_eq_of_lt hcounts.nonneg h]
  · rintro rfl
    exact counts_self (Int.ofNat_lt.1 h)

/-- A value names the node at a place when it is a number that counts for it. -/
theorem locate_eq_ok_iff_counts :
    g.locate key = .ok place ↔
      ∃ n, key.asInt? = some n ∧ Counts n place ∧ place < g.nodes.length := by
  cases hkey : key.asInt? with
  | none => simp [locate_ne_ok_of_asInt?_eq_none hkey]
  | some n =>
    simp only [locate_of_asInt? hkey, counts_iff, Option.some.injEq, exists_eq_left']
    split_ifs with hnegative hwide hplace
    · simp [Int.not_le.2 hnegative]
    · simp [show ¬n < widthBound by omega]
    · have hbounds : 0 ≤ n ∧ n < widthBound := by omega
      simp only [hbounds, Except.ok.injEq, true_and]
      exact ⟨fun h => ⟨h, h ▸ hplace⟩, And.left⟩
    · simp only [false_iff]
      rintro ⟨⟨-, -, rfl⟩, hknown⟩
      exact hplace hknown

/-- A number is unknown when it has at most sixty-four bits and counts for no node. -/
theorem locate_eq_unknownNode_iff (h : key.asInt? = some n) :
    g.locate key = .error (.unknownNode key.display) ↔
      n < widthBound ∧ ∀ place < g.nodes.length, ¬Counts n place := by
  simp only [locate_of_asInt? h, counts_iff]
  split_ifs with hnegative hwide hplace
  · simp only [true_iff]
    exact ⟨by omega, fun place _ hcounts => absurd hcounts.1 (Int.not_le.2 hnegative)⟩
  · simp [show ¬n < widthBound by omega]
  · simp only [false_iff]
    rintro ⟨hnarrow, hnone⟩
    exact hnone _ hplace ⟨by omega, hnarrow, rfl⟩
  · simp only [true_iff]
    refine ⟨by omega, ?_⟩
    rintro place hknown ⟨-, -, rfl⟩
    exact hplace hknown

/-- A number below `2 ^ 32` names the node that has it. -/
theorem locate_eq_ok_iff (hnarrow : ∀ n, key.asInt? = some n → n < indexBound) :
    g.locate key = .ok place ↔ key.asInt? = some (place : Int) ∧ place < g.nodes.length := by
  rw [locate_eq_ok_iff_counts]
  constructor
  · rintro ⟨n, hkey, hcounts, hplace⟩
    rw [counts_iff_of_lt (hnarrow n hkey)] at hcounts
    exact ⟨hcounts ▸ hkey, hplace⟩
  · rintro ⟨hkey, hplace⟩
    exact ⟨place, hkey, (counts_iff_of_lt (hnarrow _ hkey)).2 rfl, hplace⟩

/-- Numbers are contained as they name nodes. -/
theorem contains_of_asInt? (h : key.asInt? = some n) :
    g.contains key =
      match g.locate key with
      | .ok _ => .ok true
      | .error (.unknownNode _) => .ok false
      | .error e => .error e := by
  rw [contains, h, locate_of_asInt? h]
  split_ifs with hnegative hwide hplace <;> simp [index?, *]

/-- A value that names a place finds the node there. -/
theorem node_of_locate (h : place < g.nodes.length) (hlocate : g.locate key = .ok place) :
    g.node key = .ok g.nodes[place] := by
  rw [node, hlocate]
  simp [h, bind, Except.bind, pure, Except.pure]

/-- A number below `2 ^ 32` names the node at its place. -/
theorem node_natural (h : place < g.nodes.length) (hnarrow : place < indexBound) :
    g.node (.int place) = .ok g.nodes[place] :=
  node_of_locate h (by rw [locate_natural g hnarrow, if_pos h])

/-! ## Edges -/

/-- Linking adds one edge. -/
theorem mem_edges_link {u v p q : Nat} :
    (p, q) ∈ (g.link u v).edges ↔ (p, q) ∈ g.edges ∨ p = u ∧ q = v := by
  unfold link
  split
  · next hknown =>
    rw [iff_self_or]
    rintro ⟨rfl, rfl⟩
    exact hknown
  · rw [List.mem_cons, Prod.mk.injEq, or_comm]

/-- The places of predecessors are the starts of edges. -/
theorem mem_predecessorPlaces {p : Nat} :
    p ∈ g.predecessorPlaces place ↔ (p, place) ∈ g.edges := by
  simp [predecessorPlaces, List.mem_filterMap]

/-- Between two places an edge is refused when they are named by equal numbers. -/
theorem addEdge_of_locate {m : Int} {u v : Nat} (hbefore : g.locate before.key = .ok u)
    (hafter : g.locate after.key = .ok v) (hm : before.key.asInt? = some m)
    (hn : after.key.asInt? = some n) :
    g.addEdge before after =
      if m = n then .error (.selfEdge before.key.messageText) else .ok (g.link u v) := by
  simp only [addEdge, hbefore, hafter, Value.same_iff_of_asInt? hm hn, bind, Except.bind]
  split <;> rfl

/-- An edge is added between two nodes that are named by different numbers. -/
theorem addEdge_eq_ok_iff_counts :
    g.addEdge before after = .ok g' ↔
      ∃ (m n : Int) (u v : Nat), before.key.asInt? = some m ∧ after.key.asInt? = some n ∧
        Counts m u ∧ Counts n v ∧ u < g.nodes.length ∧ v < g.nodes.length ∧ m ≠ n ∧
        g' = g.link u v := by
  constructor
  · intro h
    have hparts := h
    simp only [addEdge, Attempt.bind_eq_ok_iff] at hparts
    obtain ⟨u, hlocateU, v, hlocateV, -⟩ := hparts
    obtain ⟨m, hm, hcountsU, hu⟩ := locate_eq_ok_iff_counts.1 hlocateU
    obtain ⟨n, hn, hcountsV, hv⟩ := locate_eq_ok_iff_counts.1 hlocateV
    rw [addEdge_of_locate hlocateU hlocateV hm hn] at h
    split_ifs at h with hne
    cases h
    exact ⟨m, n, u, v, hm, hn, hcountsU, hcountsV, hu, hv, hne, rfl⟩
  · rintro ⟨m, n, u, v, hm, hn, hcountsU, hcountsV, hu, hv, hne, rfl⟩
    rw [addEdge_of_locate (locate_eq_ok_iff_counts.2 ⟨m, hm, hcountsU, hu⟩)
      (locate_eq_ok_iff_counts.2 ⟨n, hn, hcountsV, hv⟩) hm hn, if_neg hne]

/-- An edge is added between two nodes that differ, each of which is named by its number. -/
theorem addEdge_eq_ok_iff (hbefore : before.Narrow) (hafter : after.Narrow) :
    g.addEdge before after = .ok g' ↔
      ∃ u v : Nat, before.key.asInt? = some (u : Int) ∧ after.key.asInt? = some (v : Int) ∧
        u < g.nodes.length ∧ v < g.nodes.length ∧ u ≠ v ∧ g' = g.link u v := by
  rw [addEdge_eq_ok_iff_counts]
  constructor
  · rintro ⟨m, n, u, v, hm, hn, hcountsU, hcountsV, hu, hv, hne, rfl⟩
    obtain rfl := (counts_iff_of_lt (hbefore m hm)).1 hcountsU
    obtain rfl := (counts_iff_of_lt (hafter n hn)).1 hcountsV
    exact ⟨u, v, hm, hn, hu, hv, fun heq => hne (congrArg Nat.cast heq), rfl⟩
  · rintro ⟨u, v, hu, hv, hknownU, hknownV, hne, rfl⟩
    exact ⟨u, v, u, v, hu, hv, (counts_iff_of_lt (hbefore _ hu)).2 rfl,
      (counts_iff_of_lt (hafter _ hv)).2 rfl, hknownU, hknownV,
      fun heq => hne (Int.ofNat_inj.1 heq), rfl⟩

/-- A node that is named by its number has the nodes at its predecessor places before it. -/
theorem predecessors_eq (hreference : reference.Narrow)
    (hkey : reference.key.asInt? = some (place : Int)) (hplace : place < g.nodes.length) :
    g.predecessors reference =
      .ok ((g.predecessorPlaces place).filterMap fun p => g.nodes[p]?) := by
  rw [predecessors, (locate_eq_ok_iff hreference).2 ⟨hkey, hplace⟩]
  rfl

end Graph

end PackageBuild
