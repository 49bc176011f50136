/-!
# Texts in order

Texts are ordered by code point.

Main results:

- `mem_sortTexts`: sorting keeps the texts.
- `mem_distinctTexts`: so does the removal of repetitions.
-/

namespace PackageBuild.Text

/-- Whether a text may stand before another one. -/
def atMost (s t : String) : Bool := !decide (t < s)

/-- Texts in ascending order. -/
def sortTexts (texts : List String) : List String := texts.mergeSort atMost

/-- Texts in ascending order, each once. -/
def distinctTexts (texts : List String) : List String := sortTexts texts.eraseDups

@[simp] theorem mem_sortTexts {s : String} {texts : List String} :
    s ∈ sortTexts texts ↔ s ∈ texts := List.mem_mergeSort

@[simp] theorem mem_distinctTexts {s : String} {texts : List String} :
    s ∈ distinctTexts texts ↔ s ∈ texts := by
  simp [distinctTexts, List.mem_eraseDups]

end PackageBuild.Text
