import PackageBuild.Text.Sorted

/-!
# Texts in ascending order

Texts are put in order by code point.  Sorted texts that come once each stand strictly ascending,
and such a list is known by its members.

Main results:

- Theorem `atMost_iff`: the test that texts are sorted by.
- Theorem `pairwise_distinctTexts`: distinct texts stand strictly ascending.
- Theorem `eq_of_pairwise_lt`: strictly ascending texts are known by their members.
-/

namespace PackageBuild.Text

variable {s t : String} {texts others : List String}

/-- The order by code points. -/
theorem atMost_iff : atMost s t = true ↔ s ≤ t := by
  rw [atMost, Bool.not_eq_true', decide_eq_false_iff_not, String.not_lt]

/-- The order of texts is transitive. -/
theorem atMost_trans (s t u : String) (hst : atMost s t = true) (htu : atMost t u = true) :
    atMost s u = true :=
  atMost_iff.2 (String.le_trans (atMost_iff.1 hst) (atMost_iff.1 htu))

/-- The order of texts is total. -/
theorem atMost_total (s t : String) : (atMost s t || atMost t s) = true := by
  rw [Bool.or_eq_true, atMost_iff, atMost_iff]
  exact String.le_total s t

/-- Texts that were sorted ascend. -/
theorem pairwise_sortTexts (texts : List String) : (sortTexts texts).Pairwise (· ≤ ·) := by
  have hsorted : (texts.mergeSort atMost).Pairwise fun s t => atMost s t = true :=
    List.pairwise_mergeSort atMost_trans atMost_total texts
  exact hsorted.imp fun h => atMost_iff.1 h

/-- Ascending texts that come once each stand strictly ascending. -/
theorem pairwise_lt_of_nodup (hsorted : texts.Pairwise (· ≤ ·)) (hnodup : texts.Nodup) :
    texts.Pairwise (· < ·) := by
  refine hsorted.imp₂ (fun s t hle hne => ?_) hnodup
  exact String.not_le.1 fun hge => hne (String.le_antisymm hle hge)

/-- Without repetitions every text comes once. -/
theorem nodup_eraseDups : (texts : List String) → texts.eraseDups.Nodup
  | [] => .nil
  | s :: rest => by
    rw [List.eraseDups_cons, List.nodup_cons, List.mem_eraseDups, List.mem_filter]
    exact ⟨by simp, nodup_eraseDups _⟩
termination_by texts => texts.length
decreasing_by exact Nat.lt_succ_of_le (List.length_filter_le _ rest)

/-- Distinct texts stand strictly ascending. -/
theorem pairwise_distinctTexts (texts : List String) : (distinctTexts texts).Pairwise (· < ·) := by
  have hnodup : (distinctTexts texts).Nodup :=
    (List.mergeSort_perm texts.eraseDups atMost).nodup_iff.2 (nodup_eraseDups texts)
  exact pairwise_lt_of_nodup (pairwise_sortTexts texts.eraseDups) hnodup

/-- Strictly ascending texts are known by their members. -/
theorem eq_of_pairwise_lt (hs : texts.Pairwise (· < ·)) (ht : others.Pairwise (· < ·))
    (h : ∀ s, s ∈ texts ↔ s ∈ others) : texts = others := by
  have hne {l : List String} (hl : l.Pairwise (· < ·)) : l.Nodup :=
    hl.imp fun {s t} (hlt : s < t) (heq : s = t) => String.lt_irrefl t (heq ▸ hlt)
  refine ((List.perm_ext_iff_of_nodup (hne hs) (hne ht)).2 h).eq_of_pairwise ?_ hs ht
  intro s t _ _ hst hts
  exact absurd hts (String.lt_asymm hst)

end PackageBuild.Text
