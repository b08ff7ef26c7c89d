/-
  PageObjects.Proofs.Table.Entry

  Cells and rows from their markup. The entry of a cell is read off the tree: the
  text that the cell starts with, without the blanks at its ends, and nothing if the
  cell starts with anything else. A markup that an element is written as gives the
  entries back, whichever of its needless end tags are left out.

    * `parseCell_eq_ok`: a cell that is read alone has its entry.
    * `parseRow_eq_ok`: a row that is read as a whole has the entries of its cells.
-/

import PageObjects.Proofs.Markup.Rereading
import PageObjects.Proofs.Table.Indexing
import PageObjects.Table.Row

namespace PageObjects
namespace Markup

/-- The markup is one that the element is written as. -/
def IsMarkupOf (markup : String) (e : Element) : Prop :=
  Writable [e.toNode] ∧ ∃ omitted, markup = render omitted [e.toNode]

theorem IsMarkupOf.requireElement_eq {markup : String} {e : Element} (h : IsMarkupOf markup e) :
    requireElement markup = .ok e := by
  obtain ⟨h_writable, omitted, rfl⟩ := h
  have h_parse : parseElement? (render omitted [e.toNode]) = some e := by
    rw [parseElement?, parse_render h_writable]
    rfl
  rw [requireElement, h_parse]

/-- The child elements of an element that can be written can be written. -/
theorem Writable.of_mem_elements {e child : Element} (h : Writable [e.toNode])
    (h_child : child ∈ e.elements) : Writable [child.toNode] := by
  refine h.of_forall_mem (fun root h_root => ?_) (.singleton _)
  obtain rfl := List.mem_singleton.mp h_root
  exact .child (.root List.mem_cons_self) (Header.toNode_mem_children h_child)

end Markup

namespace Table

open Markup (Element IsMarkupOf Writable)

/-- The entry of a cell: the text before the first child that is none, without the blanks at its
    ends. -/
def entry (cell : Element) : Option String :=
  match cell.children with
  | .text content :: _ => some (Text.trim content)
  | _ => none

/-- A text at the head of a cell that can be written is all of its leading text. -/
theorem cellValue_eq_entry {cell : Element} (h : Writable [cell.toNode]) :
    cellValue cell = entry cell := by
  obtain ⟨tag, attributes, children⟩ := cell
  have h_below : Writable children := h.below
  rw [cellValue, entry, Element.text]
  match children, h_below with
  | [], _ => rfl
  | .element _ _ _ :: _, _ => rfl
  | .comment _ :: _, _ => rfl
  | .text content :: rest, h_below =>
    have h_content : content ≠ "" := h_below.head
    have h_rest : Element.leadingText rest = "" := by
      match rest, h_below with
      | [], _ => rfl
      | .element _ _ _ :: _, _ => rfl
      | .comment _ :: _, _ => rfl
      | .text other :: _, h_below =>
        have h_apart := (List.isChain_cons_cons.mp h_below.roots_apart).1
        exact absurd ⟨rfl, rfl⟩ h_apart
    have h_leading : Element.leadingText (.text content :: rest) = content := by
      rw [Element.leadingText, h_rest, String.append_empty]
    have h_some : content.isEmpty = false := by
      rw [Bool.eq_false_iff]
      exact fun h_empty => h_content (String.isEmpty_iff.mp h_empty)
    simp only [h_leading, h_some]
    rfl

theorem expectElement_eq_ok {tag markup : String} {e : Element} (h : IsMarkupOf markup e)
    (h_tag : e.tag = tag) : expectElement tag markup = .ok e := by
  rw [expectElement, h.requireElement_eq]
  show (if e.tag = tag then _ else _) = _
  rw [if_pos h_tag]
  rfl

theorem parseCell_eq_ok {markup : String} {cell : Element} (h : IsMarkupOf markup cell)
    (h_tag : cell.tag = "td") : parseCell markup = .ok (entry cell) := by
  rw [parseCell, expectElement_eq_ok h h_tag, ← cellValue_eq_entry h.1]
  rfl

theorem parseRow_eq_ok {markup : String} {row : Element} (h : IsMarkupOf markup row)
    (h_tag : row.tag = "tr") : parseRow markup = .ok (row.elements.map entry) := by
  have h_entries : row.elements.map cellValue = row.elements.map entry := by
    refine List.map_congr_left fun cell h_cell => ?_
    exact cellValue_eq_entry (h.1.of_mem_elements h_cell)
  rw [parseRow, expectElement_eq_ok h h_tag, ← h_entries]
  rfl

end Table
end PageObjects
