/-
  PageObjects.Proofs.Markup.Building

  How the operations of the tree reader move its two views: the siblings that the
  next node joins, and the tags of the open elements. Closing is one lemma,
  `closeInner_keeps`: what the closing of one element keeps, the closing of any
  number of elements keeps. A start tag and an end tag are then a number of
  elements to close, which the tags alone decide, and at most one node to add.
-/

import PageObjects.Markup.Forest

namespace PageObjects
namespace Markup
namespace Forest

/-! ## Views -/

/-- The siblings, latest first, that the next node joins. -/
def siblings (forest : Forest) : List Node :=
  match forest.opened with
  | [] => forest.roots
  | e :: _ => e.children

/-- The tags of the open elements, innermost first. -/
def openTags (forest : Forest) : List String :=
  forest.opened.map (·.tag)

/-- The forest with an element opened. -/
def opening (tag : String) (attributes : List Attribute) (forest : Forest) : Forest :=
  { forest with opened := ⟨tag, attributes, []⟩ :: forest.opened }

/-- The forest after the closings that a start tag implies. -/
def closeFor (tag : String) (forest : Forest) : Forest :=
  forest.closeInner (forest.opened.takeWhile fun e => (implicitlyClosedBy tag).contains e.tag).length

theorem siblings_onSiblings (f : List Node → List Node) (forest : Forest) :
    (forest.onSiblings f).siblings = f forest.siblings := by
  obtain ⟨roots, opened⟩ := forest
  cases opened with
  | nil => rfl
  | cons e outer => rfl

theorem openTags_onSiblings (f : List Node → List Node) (forest : Forest) :
    (forest.onSiblings f).openTags = forest.openTags := by
  obtain ⟨roots, opened⟩ := forest
  cases opened with
  | nil => rfl
  | cons e outer => rfl

/-! ## Closing -/

/-- What the closing of one element keeps, the closing of several keeps. -/
theorem closeInner_keeps {P : Forest → Prop} (h_step : ∀ forest, P forest → P forest.closeTop)
    (n : Nat) {forest : Forest} (h : P forest) : P (forest.closeInner n) := by
  induction n generalizing forest with
  | zero => exact h
  | succ n ih => exact ih (h_step forest h)

theorem openTags_closeTop (forest : Forest) : forest.closeTop.openTags = forest.openTags.tail := by
  obtain ⟨roots, opened⟩ := forest
  cases opened with
  | nil => rfl
  | cons e outer => exact openTags_onSiblings _ _

theorem openTags_closeInner (n : Nat) (forest : Forest) :
    (forest.closeInner n).openTags = forest.openTags.drop n := by
  induction n generalizing forest with
  | zero => rfl
  | succ n ih => rw [closeInner, ih, openTags_closeTop, List.drop_tail]

/-- Closing as many elements as are open leaves none open. -/
theorem opened_closeInner_length (forest : Forest) :
    (forest.closeInner forest.opened.length).opened = [] := by
  have h_tags := openTags_closeInner forest.opened.length forest
  rw [openTags, openTags, List.drop_eq_nil_of_le (by simp)] at h_tags
  exact List.map_eq_nil_iff.1 h_tags

/-! ## Start tags and end tags -/

/-- The tags that stay open are those from the first on that is not closed. -/
theorem openTags_closeFor (tag : String) (forest : Forest) :
    (forest.closeFor tag).openTags
      = forest.openTags.dropWhile (implicitlyClosedBy tag).contains := by
  rw [closeFor, openTags_closeInner, openTags]
  induction forest.opened with
  | nil => rfl
  | cons e outer ih =>
    by_cases h : (implicitlyClosedBy tag).contains e.tag = true
    · simp only [List.takeWhile_cons, List.dropWhile_cons, List.map_cons, h, if_true,
        List.length_cons, List.drop_succ_cons]
      exact ih
    · simp only [List.takeWhile_cons, List.dropWhile_cons, List.map_cons, h, if_false,
        List.length_nil, List.drop_zero, Bool.false_eq_true]

/-- After the closings that a start tag implies, the innermost open element is not one of those
    that the tag closes. -/
theorem not_mem_of_head_closeFor {tag outer : String} {forest : Forest}
    (h : outer ∈ (forest.closeFor tag).openTags.head?) : outer ∉ implicitlyClosedBy tag := by
  intro h_mem
  rw [openTags_closeFor] at h
  have h_not := List.head?_dropWhile_not (implicitlyClosedBy tag).contains forest.openTags
  rw [Option.mem_def.1 h] at h_not
  have h_false : (implicitlyClosedBy tag).contains outer = false := h_not
  rw [List.contains_iff_mem.2 h_mem] at h_false
  cases h_false

theorem openTag_eq_push {tag : String} {attributes : List Attribute} {selfClosing : Bool}
    (h : (selfClosing || voidTags.contains tag) = true) (forest : Forest) :
    forest.openTag tag attributes selfClosing
      = (forest.closeFor tag).push (.element tag attributes []) :=
  if_pos h

theorem openTag_eq_opening {tag : String} {attributes : List Attribute} {selfClosing : Bool}
    (h : ¬(selfClosing || voidTags.contains tag) = true) (forest : Forest) :
    forest.openTag tag attributes selfClosing = (forest.closeFor tag).opening tag attributes :=
  if_neg h

/-- An end tag without an open element of its name changes nothing. -/
theorem closeTag_of_not_mem {tag : String} {forest : Forest} (h : tag ∉ forest.openTags) :
    forest.closeTag tag = forest := by
  have h_none : forest.opened.findIdx? (fun e => e.tag == tag) = none := by
    rw [List.findIdx?_eq_none_iff]
    intro e h_e
    rw [beq_eq_false_iff_ne]
    intro h_eq
    exact h (h_eq ▸ List.mem_map_of_mem h_e)
  rw [closeTag, h_none]

/-- An end tag closes the innermost open element of its name and all inside it. -/
theorem closeTag_of_mem {tag : String} {forest : Forest} (h : tag ∈ forest.openTags) :
    forest.closeTag tag = forest.closeInner (forest.openTags.idxOf tag + 1) := by
  have h_lt : forest.openTags.idxOf tag < forest.opened.length := by
    have h_idx := List.idxOf_lt_length_of_mem h
    rwa [openTags, List.length_map] at h_idx
  have h_find : forest.opened.findIdx (fun e => e.tag == tag) = forest.openTags.idxOf tag := by
    rw [openTags, List.idxOf, List.findIdx_map]
    rfl
  have h_some : forest.opened.findIdx? (fun e => e.tag == tag)
      = some (forest.openTags.idxOf tag) :=
    List.findIdx?_eq_some_iff_findIdx_eq.2 ⟨h_lt, h_find⟩
  rw [closeTag, h_some]

end Forest
end Markup
end PageObjects
