/-
  PageObjects.Proofs.Table.Places

  Header cells as an xpath sees them. The index of a header numbers the genuine cells
  of its rows; the xpath of a column is looked up among all elements with the tag of a
  header cell, wherever they stand: labels over groups of columns, cells outside of a
  row, elements inside of other cells.

    * `places` lists these elements in document order and marks the cells of the rows.
    * `exists_place`: the place of the column with a position.
    * `Column.selects` is what the xpath of a column stands for.
    * `selects_of_visibleText`: a column that has the text of a cell as its name selects
      the cell, unless a line break stands inside of that text.
-/

import PageObjects.Proofs.Table.Indexing
import PageObjects.Proofs.Text.Trim
import PageObjects.Table.Column
import PageObjects.Text.Search

namespace PageObjects

namespace Markup

mutual

/-- The elements with a tag in a node, itself included, in document order. -/
def Node.tagged (tag : String) : Node → List Element
  | .element tag' attributes children =>
    (if tag' = tag then [⟨tag', attributes, children⟩] else []) ++ taggedAll tag children
  | .text _ | .comment _ => []

/-- The elements with a tag in a forest, in document order. -/
def taggedAll (tag : String) : List Node → List Element
  | [] => []
  | node :: rest => node.tagged tag ++ taggedAll tag rest

end

theorem taggedAll_eq_flatMap (tag : String) (nodes : List Node) :
    taggedAll tag nodes = nodes.flatMap (Node.tagged tag) := by
  induction nodes with
  | nil => rw [taggedAll, List.flatMap_nil]
  | cons node rest ih => rw [taggedAll, ih, List.flatMap_cons]

end Markup

namespace Header

open Markup (Element Node taggedAll)

-- ============================================================================
-- Document order
-- ============================================================================

/-- An element with the tag of a header cell, and whether it is a cell of a row of the header. -/
abbrev Place := Element × Bool

/-- The places in nodes that are no part of a row. -/
def strayPlaces (nodes : List Node) : List Place :=
  (taggedAll cellTag nodes).map fun cell => (cell, false)

/-- The places in a child of a row. -/
def childPlaces : Node → List Place
  | .element tag attributes children =>
    (if tag = cellTag then [(⟨tag, attributes, children⟩, true)] else []) ++ strayPlaces children
  | .text _ | .comment _ => []

/-- The places in a node that stands where rows stand. -/
def nodePlaces : Node → List Place
  | .element tag attributes children =>
    if tag = "tr" then children.flatMap childPlaces
    else strayPlaces [.element tag attributes children]
  | .text _ | .comment _ => []

/-- All places of a header, in document order. -/
def places (nodes : List Node) : List Place :=
  (unwrapped nodes).flatMap nodePlaces

/-- Whether a column is numbered at this place. -/
def isColumn (place : Place) : Bool :=
  place.2 && isGenuine place.1

theorem map_fst_strayPlaces (nodes : List Node) :
    (strayPlaces nodes).map (·.1) = taggedAll cellTag nodes := by
  rw [strayPlaces, List.map_map]
  exact List.map_id _

theorem map_fst_childPlaces (node : Node) :
    (childPlaces node).map (·.1) = node.tagged cellTag := by
  cases node with
  | text content => rfl
  | comment content => rfl
  | element tag attributes children =>
    rw [childPlaces, Node.tagged, List.map_append, map_fst_strayPlaces]
    split
    · rfl
    · rfl

theorem map_fst_nodePlaces (node : Node) :
    (nodePlaces node).map (·.1) = node.tagged cellTag := by
  cases node with
  | text content => rfl
  | comment content => rfl
  | element tag attributes children =>
    rw [nodePlaces]
    split
    · rename_i h_row
      rw [List.map_flatMap, Node.tagged, if_neg (by rw [h_row]; decide), List.nil_append,
        Markup.taggedAll_eq_flatMap]
      simp only [map_fst_childPlaces]
    · rw [map_fst_strayPlaces, taggedAll, taggedAll, List.append_nil]

/-- Taking containers away loses no header cell. -/
theorem taggedAll_unwrapped (nodes : List Node) :
    taggedAll cellTag (unwrapped nodes) = taggedAll cellTag nodes := by
  rw [unwrapped, Markup.taggedAll_eq_flatMap, Markup.taggedAll_eq_flatMap, List.flatMap_assoc]
  refine List.flatMap_congr fun node _ => ?_
  cases node with
  | text content => rfl
  | comment content => rfl
  | element tag attributes children =>
    dsimp only
    split
    · rename_i h_container
      rw [Node.tagged, if_neg (by rw [h_container]; decide), List.nil_append,
        Markup.taggedAll_eq_flatMap]
    · rw [List.flatMap_singleton]

/-- The places of a header are all of its elements with the tag of a header cell. -/
theorem map_fst_places (nodes : List Node) :
    (places nodes).map (·.1) = taggedAll cellTag nodes := by
  rw [places, List.map_flatMap, ← taggedAll_unwrapped, Markup.taggedAll_eq_flatMap]
  simp only [map_fst_nodePlaces]

theorem filter_strayPlaces (nodes : List Node) : (strayPlaces nodes).filter (·.2) = [] := by
  rw [strayPlaces, List.filter_map, List.filter_eq_nil_iff.2 (by simp), List.map_nil]

theorem filter_childPlaces (children : List Node) :
    ((children.flatMap childPlaces).filter (·.2)).map (·.1) =
      (children.filterMap Node.element?).filter (·.tag == cellTag) := by
  induction children with
  | nil => rfl
  | cons child rest ih =>
    rw [List.flatMap_cons, List.filter_append, List.map_append, ih]
    cases child with
    | text content => rfl
    | comment content => rfl
    | element tag attributes below =>
      have h_child : (Node.element tag attributes below).element? = some ⟨tag, attributes, below⟩ :=
        rfl
      rw [childPlaces, List.filter_append, filter_strayPlaces, List.append_nil,
        List.filterMap_cons_some h_child, List.filter_cons]
      by_cases h_cell : tag = cellTag
      · simp [h_cell]
      · simp [h_cell]

/-- The marked places are the cells of the rows. -/
theorem filter_places (nodes : List Node) :
    ((places nodes).filter (·.2)).map (·.1) = headerCells nodes := by
  rw [places, headerCells, headerRows]
  induction unwrapped nodes with
  | nil => rfl
  | cons node rest ih =>
    rw [List.flatMap_cons, List.filter_append, List.map_append, ih]
    cases node with
    | text content => rfl
    | comment content => rfl
    | element tag attributes children =>
      have h_node : (Node.element tag attributes children).element?
          = some ⟨tag, attributes, children⟩ := rfl
      rw [nodePlaces, List.filterMap_cons_some h_node, List.filter_cons]
      by_cases h_row : tag = "tr"
      · rw [if_pos h_row, filter_childPlaces, if_pos (by simpa using h_row), List.flatMap_cons,
          Element.elements]
        rfl
      · rw [if_neg h_row, filter_strayPlaces, if_neg (by simpa using h_row), List.map_nil,
          List.nil_append]

theorem filter_isColumn (nodes : List Node) :
    ((places nodes).filter isColumn).map (·.1) = columnCells nodes := by
  have h_both : (fun place : Place => (isGenuine ∘ (·.1)) place && place.2) = isColumn :=
    funext fun place => Bool.and_comm _ _
  rw [columnCells, ← filter_places, List.filter_map, List.filter_filter, h_both]

/-- What a filter leaves at an index stands behind as many items that it leaves. -/
theorem exists_of_getElem?_filter {α : Type} {p : α → Bool} {items : List α} {index : Nat} {a : α}
    (h : (items.filter p)[index]? = some a) :
    ∃ before after, items = before ++ a :: after ∧ before.countP p = index ∧ p a = true := by
  obtain ⟨h_lt, rfl⟩ := List.getElem?_eq_some_iff.1 h
  have h_filter : items.filter p = (items.filter p).take index ++
      (items.filter p)[index] :: (items.filter p).drop (index + 1) := by
    rw [← List.drop_eq_getElem_cons h_lt, List.take_append_drop]
  obtain ⟨before, rest, h_items, h_before, h_rest⟩ := List.filter_eq_append_iff.1 h_filter
  obtain ⟨gap, after, rfl, h_gap, h_a, -⟩ := List.filter_eq_cons_iff.1 h_rest
  refine ⟨before ++ gap, after, by rw [List.append_assoc, ← h_items], ?_, h_a⟩
  rw [List.countP_append, List.countP_eq_length_filter, h_before,
    List.countP_eq_zero.2 h_gap, List.length_take, Nat.min_eq_left h_lt.le, Nat.add_zero]

/-- The column with a position stands at a place with one numbered place less before it. -/
theorem exists_place {nodes : List Node} {position : Nat} {cell : Element}
    (h : IsCellOf (columnCells nodes) position cell) :
    ∃ before after, places nodes = before ++ (cell, true) :: after ∧ isGenuine cell = true ∧
      position = before.countP isColumn + 1 := by
  obtain ⟨index, rfl, h_index⟩ := h
  rw [← filter_isColumn, List.getElem?_map, Option.map_eq_some_iff] at h_index
  obtain ⟨⟨found, isCell⟩, h_found, rfl⟩ := h_index
  obtain ⟨before, after, h_places, h_count, h_column⟩ := exists_of_getElem?_filter h_found
  obtain ⟨h_cell, h_genuine⟩ := Bool.and_eq_true_iff.1 h_column
  obtain rfl : isCell = true := h_cell
  exact ⟨before, after, h_places, h_genuine, by rw [h_count]⟩

end Header

-- ============================================================================
-- Selection by xpath
-- ============================================================================

/-- The first child of an element that is text. -/
def Markup.Element.firstText? (e : Element) : Option String :=
  e.children.findSome? fun
    | .text content => some content
    | _ => none

/-- Whether the xpath of a column selects an element with the tag of a header cell: by a name, if
    the name occurs in its first text, and by an attribute, if the attribute has the value. -/
def Column.selects (column : Column) (cell : Markup.Element) : Bool :=
  match column.search with
  | .visibleName => cell.firstText?.any fun content =>
      Text.occursIn column.visibleName.toList content.toList
  | .byAttribute name value => cell.attribute? name = some value

namespace Header

open Markup (Element Node)

/-- A run of text at the head of siblings is one text. -/
theorem leadingText_cons {content : String} {rest : List Node}
    (h : Markup.TextsApart (.text content :: rest)) :
    Element.leadingText (.text content :: rest) = content := by
  rw [Element.leadingText]
  cases rest with
  | nil => exact String.append_empty
  | cons next rest =>
    cases next with
    | text other => exact absurd ⟨rfl, rfl⟩ (List.isChain_cons_cons.1 h).1
    | _ => exact String.append_empty

/-- The text at the head of a parsed element is its first text. -/
theorem firstText?_of_text {cell : Element} (h_apart : Markup.TextsApart cell.children)
    {content : String} (h : cell.text = some content) : cell.firstText? = some content := by
  obtain ⟨tag, attributes, children⟩ := cell
  rw [Element.text] at h
  split at h
  · cases h
  · rename_i h_leading
    obtain rfl := Option.some.inj h
    cases children with
    | nil => exact absurd rfl h_leading
    | cons first rest =>
      cases first with
      | text content =>
        rw [leadingText_cons h_apart]
        rfl
      | _ => exact absurd rfl h_leading

/-- A column that has the text of a cell as its name selects the cell exactly if the cell has a text
    of its own and no line break stands inside of that text. -/
theorem selects_of_visibleText {cell : Element} (h_apart : Markup.TextsApart cell.children)
    {column : Column} (h_search : column.search = .visibleName)
    (h_name : visibleText cell.text = column.visibleName) :
    column.selects cell = true ↔ cell.firstText?.isSome = true ∧
      '\n' ∉ Text.trimBlanks (cell.text.getD "").toList := by
  rw [Column.selects, h_search, ← h_name, visibleText, String.toList_ofList]
  cases h_text : cell.text with
  | none => cases cell.firstText? <;> simp [Text.occursIn_iff, Text.trimBlanks]
  | some content =>
    rw [firstText?_of_text h_apart h_text]
    simp only [Option.any_some, Text.occursIn_iff, Option.getD_some, Option.isSome_some, true_and]
    exact Text.filter_trimBlanks_infix_iff content.toList

/-- The texts in a cell of a column stand apart. -/
theorem textsApart_of_mem_columnCells {markup : String} {cell : Element}
    (h : cell ∈ columnCells (Markup.parse markup)) : Markup.TextsApart cell.children :=
  (Markup.row_parse markup).wellFormed.children_apart _ _ _
    (occurs_of_mem_headerCells (List.mem_filter.1 h).1)

end Header
end PageObjects
