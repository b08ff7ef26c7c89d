/-
  PageObjects.Proofs.Table.Layout

  Where a page shows a table. A `Layout` says which nodes the page has at the xpaths
  of the rows, cells and columns of a body, each with the markup of a row or of a
  cell. There is a page for any header and any rows: every row, cell and column has
  an xpath of its own, so that the nodes can be named by their xpaths.

    * `XPath.bodyRow_inj`, `XPath.cell_inj`, `XPath.column_inj`: no two rows, cells or
      columns have the same xpath, and their xpaths are told apart by their heads.
    * `layout_ofTable`: the page has the layout of the table that it is made of.
    * `layout_texts`: the same for rows of plain texts.
-/

import PageObjects.Proofs.Table.Entry
import PageObjects.Proofs.Table.Viewing
import PageObjects.Proofs.Text.Split

namespace PageObjects

open Markup (Attribute Element IsMarkupOf Node Writable WritableElement)

-- ============================================================================
-- Layouts
-- ============================================================================

/-- The outer markup of a node is one that the element is written as. -/
def Browser.HasMarkup (stage : Browser) (node : String) (e : Element) : Prop :=
  ∃ markup, (stage.node node).attributes.find? "outerHTML" = some markup ∧ IsMarkupOf markup e

/-- The first node at an xpath below a table has the markup of the element. -/
def Browser.ShowsAt (stage : Browser) (root xpath : String) (e : Element) : Prop :=
  ∃ node, (stage.below root xpath).head? = some node ∧ stage.HasMarkup node e

/-- The page shows a table with the given header and rows: each row at its position in the body,
    each cell at its row and column, and under the xpath of a column, from top to bottom, its cell
    of every row that has one. -/
structure Layout (stage : Browser) (rootXPath root header : String) (body : List Element) :
    Prop where
  root_eq : (stage.namesIn (.xpath rootXPath)).head? = some root
  header_eq : stage.headerMarkup? rootXPath = some header
  row_tag : ∀ row ∈ body, row.tag = "tr"
  cell_tag : ∀ row ∈ body, ∀ cell ∈ row.elements, cell.tag = "td"
  row : ∀ r row, body[r]? = some row → stage.ShowsAt root (rootXPath ++ XPath.bodyRow (r + 1)) row
  cell : ∀ r row c cell, body[r]? = some row → row.elements[c]? = some cell →
    stage.ShowsAt root (rootXPath ++ XPath.cell (r + 1) (c + 1)) cell
  column : ∀ c, List.Forall₂ stage.HasMarkup
    (stage.below root (rootXPath ++ XPath.column (c + 1)))
    (body.filterMap fun row => row.elements[c]?)

-- ============================================================================
-- Xpaths
-- ============================================================================

namespace XPath

theorem not_mem_toString (n : Nat) : ']' ∉ (toString n).toList := by
  intro h_mem
  rw [Nat.toString_eq_repr, Nat.toList_repr] at h_mem
  have h_digit := Nat.isDigit_of_mem_toDigits (by decide) (by decide) h_mem
  exact absurd h_digit (by decide)

theorem not_mem_append_toString {text : List Char} (h : ']' ∉ text) (n : Nat) :
    ']' ∉ text ++ (toString n).toList := by
  rw [List.mem_append]
  exact not_or.mpr ⟨h, not_mem_toString n⟩

theorem toList_bodyRow (r : Nat) :
    (bodyRow r).toList = "//tbody//tr[".toList ++ ((toString r).toList ++ [']']) := by
  simp [bodyRow, body, row, String.toList_append]

theorem toList_cell (r c : Nat) : (cell r c).toList
    = ("//tr[".toList ++ (toString r).toList)
      ++ ']' :: (("/td[".toList ++ (toString c).toList) ++ [']']) := by
  simp [cell, row, String.toList_append]

theorem toList_column (c : Nat) :
    (column c).toList = "//tr/td[".toList ++ ((toString c).toList ++ [']']) := by
  simp [column, String.toList_append]

theorem toString_inj {m n : Nat} (h : (toString m).toList = (toString n).toList) : m = n := by
  simp only [Nat.toString_eq_repr, Nat.toList_repr] at h
  rw [← Nat.ofDigitChars_ten_toDigits (n := m), h, Nat.ofDigitChars_ten_toDigits]

theorem bodyRow_inj {r r' : Nat} (h : bodyRow r = bodyRow r') : r = r' := by
  have h_list := congrArg String.toList h
  rw [toList_bodyRow, toList_bodyRow, List.append_right_inj, List.append_left_inj] at h_list
  exact toString_inj h_list

theorem column_inj {c c' : Nat} (h : column c = column c') : c = c' := by
  have h_list := congrArg String.toList h
  rw [toList_column, toList_column, List.append_right_inj, List.append_left_inj] at h_list
  exact toString_inj h_list

theorem cell_inj {r c r' c' : Nat} (h : cell r c = cell r' c') : r = r' ∧ c = c' := by
  have h_parts := congrArg (Text.parts ']') (congrArg String.toList h)
  rw [toList_cell, toList_cell, Text.parts_append (not_mem_append_toString (by decide) r),
    Text.parts_append (not_mem_append_toString (by decide) r')] at h_parts
  obtain ⟨h_rows, h_rest⟩ := List.cons.inj h_parts
  rw [Text.parts_append (not_mem_append_toString (by decide) c),
    Text.parts_append (not_mem_append_toString (by decide) c')] at h_rest
  obtain ⟨h_columns, -⟩ := List.cons.inj h_rest
  exact ⟨toString_inj (List.append_cancel_left h_rows),
    toString_inj (List.append_cancel_left h_columns)⟩

/-- A path that ends in a position is not the one of a header. -/
theorem ne_headerXPath {path : String} {init : List Char} (h : path.toList = init ++ [']'])
    (rootXPath : String) : rootXPath ++ path ≠ Table.headerXPath := by
  intro h_eq
  have h_last := congrArg (fun path => path.toList.getLast?) h_eq
  have h_path : (rootXPath ++ path).toList.getLast? = some ']' := by
    rw [String.toList_append, h, ← List.append_assoc, List.getLast?_concat]
  have h_header : Table.headerXPath.toList.getLast? = some 'd' := by decide
  rw [h_path, h_header] at h_last
  exact absurd h_last (by decide)

/-- The xpaths of rows, cells and columns differ within their first characters. -/
theorem take_bodyRow (r : Nat) : (bodyRow r).toList.take 5 = "//tbo".toList := by
  rw [toList_bodyRow]
  rfl

theorem take_cell (r c : Nat) : (cell r c).toList.take 5 = "//tr[".toList := by
  rw [toList_cell]
  rfl

theorem take_column (c : Nat) : (column c).toList.take 5 = "//tr/".toList := by
  rw [toList_column]
  rfl

theorem bodyRow_ne_cell (r r' c : Nat) : bodyRow r ≠ cell r' c := by
  intro h_eq
  have h_take := congrArg (fun path => path.toList.take 5) h_eq
  rw [take_bodyRow, take_cell] at h_take
  exact absurd h_take (by decide)

end XPath

-- ============================================================================
-- A page for a table
-- ============================================================================

/-- Where a key stands with one value only, it is found with that value; a value that is given for
    keys that are not there need not be there. -/
theorem Keyed.getD_find?_eq {κ α : Type} [DecidableEq κ] {entries : Keyed κ α} {key : κ}
    {value default : α} (h_mem : (key, value) ∈ entries ∨ value = default)
    (h_one : ∀ other, (key, other) ∈ entries → other = value) :
    (entries.find? key).getD default = value := by
  induction entries with
  | nil =>
    rcases h_mem with h_mem | rfl
    · cases h_mem
    · rfl
  | cons entry rest ih =>
    obtain ⟨first, other⟩ := entry
    rw [find?]
    by_cases h_key : first = key
    · subst h_key
      rw [if_pos rfl]
      exact h_one other List.mem_cons_self
    · rw [if_neg h_key]
      have h_rest : (key, value) ∈ rest ∨ value = default := by
        refine h_mem.imp_left fun h_mem => ?_
        rcases List.mem_cons.mp h_mem with h_eq | h_rest
        · exact absurd (Prod.mk.inj h_eq).1.symm h_key
        · exact h_rest
      exact ih h_rest fun other h_other => h_one other (List.mem_cons_of_mem _ h_other)

namespace Table

/-- The rows of a body, each with its xpath. -/
def rowPlaces (body : List Element) : List (String × Element) :=
  body.zipIdx.map fun (row, r) => (XPath.bodyRow (r + 1), row)

/-- The cells of a body, each with its xpath. -/
def cellPlaces (body : List Element) : List (String × Element) :=
  body.zipIdx.flatMap fun (row, r) =>
    row.elements.zipIdx.map fun (cell, c) => (XPath.cell (r + 1) (c + 1), cell)

/-- The xpaths of the cells of a column, from top to bottom. -/
def columnPlaces (body : List Element) (c : Nat) : List String :=
  body.zipIdx.filterMap fun (row, r) => row.elements[c]?.map fun _ => XPath.cell (r + 1) (c + 1)

theorem mem_rowPlaces {body : List Element} {path : String} {e : Element} :
    (path, e) ∈ rowPlaces body ↔ ∃ r, body[r]? = some e ∧ path = XPath.bodyRow (r + 1) := by
  constructor
  · intro h_mem
    obtain ⟨⟨row, r⟩, h_row, h_eq⟩ := List.mem_map.mp h_mem
    obtain ⟨rfl, rfl⟩ := Prod.mk.inj h_eq
    exact ⟨r, List.mem_zipIdx_iff_getElem?.mp h_row, rfl⟩
  · rintro ⟨r, h_row, rfl⟩
    exact List.mem_map.mpr ⟨(e, r), List.mem_zipIdx_iff_getElem?.mpr h_row, rfl⟩

theorem mem_cellPlaces {body : List Element} {path : String} {e : Element} :
    (path, e) ∈ cellPlaces body ↔ ∃ r row c, body[r]? = some row ∧ row.elements[c]? = some e
      ∧ path = XPath.cell (r + 1) (c + 1) := by
  constructor
  · intro h_mem
    obtain ⟨⟨row, r⟩, h_row, h_cells⟩ := List.mem_flatMap.mp h_mem
    obtain ⟨⟨cell, c⟩, h_cell, h_eq⟩ := List.mem_map.mp h_cells
    obtain ⟨rfl, rfl⟩ := Prod.mk.inj h_eq
    have h_r := List.mem_zipIdx_iff_getElem?.mp h_row
    have h_c := List.mem_zipIdx_iff_getElem?.mp h_cell
    exact ⟨r, row, c, h_r, h_c, rfl⟩
  · rintro ⟨r, row, c, h_row, h_cell, rfl⟩
    refine List.mem_flatMap.mpr ⟨(row, r), List.mem_zipIdx_iff_getElem?.mpr h_row, ?_⟩
    exact List.mem_map.mpr ⟨(e, c), List.mem_zipIdx_iff_getElem?.mpr h_cell, rfl⟩

/-- The rows and the cells of a body, each with its xpath. -/
def places (body : List Element) : List (String × Element) :=
  rowPlaces body ++ cellPlaces body

/-- No two rows or cells have the same xpath. -/
theorem eq_of_mem_places {body : List Element} {path : String} {e e' : Element}
    (h : (path, e) ∈ places body) (h' : (path, e') ∈ places body) : e = e' := by
  rcases List.mem_append.mp h with h_row | h_cell
  · obtain ⟨r, h_e, rfl⟩ := mem_rowPlaces.mp h_row
    rcases List.mem_append.mp h' with h_row' | h_cell'
    · obtain ⟨r', h_e', h_path⟩ := mem_rowPlaces.mp h_row'
      obtain rfl := Nat.succ.inj (XPath.bodyRow_inj h_path)
      exact Option.some.inj (h_e.symm.trans h_e')
    · obtain ⟨r', _, c', -, -, h_path⟩ := mem_cellPlaces.mp h_cell'
      exact absurd h_path (XPath.bodyRow_ne_cell _ _ _)
  · obtain ⟨r, row, c, h_row, h_e, rfl⟩ := mem_cellPlaces.mp h_cell
    rcases List.mem_append.mp h' with h_row' | h_cell'
    · obtain ⟨r', -, h_path⟩ := mem_rowPlaces.mp h_row'
      exact absurd h_path.symm (XPath.bodyRow_ne_cell _ _ _)
    · obtain ⟨r', row', c', h_row', h_e', h_path⟩ := mem_cellPlaces.mp h_cell'
      obtain ⟨h_r, h_c⟩ := XPath.cell_inj h_path
      obtain rfl := Nat.succ.inj h_r
      obtain rfl := Nat.succ.inj h_c
      obtain rfl := Option.some.inj (h_row.symm.trans h_row')
      exact Option.some.inj (h_e.symm.trans h_e')

end Table

/-- The columns that some row of a body has a cell in, one for each cell. -/
def Table.columnsOf (body : List Element) : List Nat :=
  body.flatMap fun row => List.range row.elements.length

/-- What is found below the root of a table: the header, the rows and the cells, and the columns. -/
def Table.children (rootXPath : String) (body : List Element) : Keyed String (List String) :=
  (Table.headerXPath, ["header"])
    :: ((Table.places body).map (fun place => (rootXPath ++ place.1, [place.1]))
      ++ (Table.columnsOf body).map fun c =>
        (rootXPath ++ XPath.column (c + 1), Table.columnPlaces body c))

/-- A page that shows a table with a header and some rows. Its nodes are named by their xpaths. -/
def Browser.ofTable (rootXPath header : String) (body : List Element) : Browser where
  nodes :=
    ("table", { children := Table.children rootXPath body })
    :: ("header", { attributes := [("innerHTML", header)] })
    :: (Table.places body).map fun place =>
      (place.1, { attributes := [("outerHTML", Markup.render (fun _ => false) [place.2.toNode])] })
  document := [(rootXPath, ["table"])]

namespace Table

variable {rootXPath header : String} {body : List Element}

/-- What the xpath of a row or of a cell looks like. -/
theorem shape_of_mem_places {path : String} {e : Element} (h : (path, e) ∈ places body) :
    (path.toList.take 5 = "//tbo".toList ∨ path.toList.take 5 = "//tr[".toList)
      ∧ ∃ init, path.toList = init ++ [']'] := by
  rcases List.mem_append.mp h with h_row | h_cell
  · obtain ⟨r, -, rfl⟩ := mem_rowPlaces.mp h_row
    refine ⟨.inl (XPath.take_bodyRow (r + 1)),
      "//tbody//tr[".toList ++ (toString (r + 1)).toList, ?_⟩
    rw [XPath.toList_bodyRow, List.append_assoc]
  · obtain ⟨r, _, c, -, -, rfl⟩ := mem_cellPlaces.mp h_cell
    refine ⟨.inr (XPath.take_cell (r + 1) (c + 1)), ("//tr[".toList ++ (toString (r + 1)).toList)
      ++ ']' :: ("/td[".toList ++ (toString (c + 1)).toList), ?_⟩
    simp only [XPath.toList_cell, List.append_assoc, List.cons_append]

/-- The node that is named by the xpath of a row or of a cell has its markup. -/
theorem hasMarkup_of_mem_places {path : String} {e : Element} (h : (path, e) ∈ places body)
    (h_writable : Writable [e.toNode]) :
    (Browser.ofTable rootXPath header body).HasMarkup path e := by
  have h_node : (Browser.ofTable rootXPath header body).node path
      = { attributes := [("outerHTML", Markup.render (fun _ => false) [e.toNode])] } := by
    refine Keyed.getD_find?_eq (.inl ?_) fun other h_other => ?_
    · exact List.mem_cons_of_mem _ (List.mem_cons_of_mem _ (List.mem_map.mpr ⟨_, h, rfl⟩))
    · have h_take := (shape_of_mem_places h).1
      rcases List.mem_cons.mp h_other with h_eq | h_other
      · rw [(Prod.mk.inj h_eq).1] at h_take
        exact absurd h_take (by decide)
      rcases List.mem_cons.mp h_other with h_eq | h_other
      · rw [(Prod.mk.inj h_eq).1] at h_take
        exact absurd h_take (by decide)
      obtain ⟨⟨_, e'⟩, h_place, h_eq⟩ := List.mem_map.mp h_other
      obtain ⟨rfl, rfl⟩ := Prod.mk.inj h_eq
      rw [eq_of_mem_places h h_place]
  refine ⟨Markup.render (fun _ => false) [e.toNode], ?_, h_writable, _, rfl⟩
  rw [h_node]
  rfl

/-- The xpath of a row or of a cell finds the node that it names. -/
theorem below_of_mem_places {path : String} {e : Element} (h : (path, e) ∈ places body) :
    (Browser.ofTable rootXPath header body).below "table" (rootXPath ++ path) = [path] := by
  obtain ⟨h_take, init, h_init⟩ := shape_of_mem_places h
  refine Keyed.getD_find?_eq (.inl ?_) fun other h_other => ?_
  · exact List.mem_cons_of_mem _ (List.mem_append_left _ (List.mem_map.mpr ⟨_, h, rfl⟩))
  · rcases List.mem_cons.mp h_other with h_eq | h_other
    · exact absurd (Prod.mk.inj h_eq).1 (XPath.ne_headerXPath h_init rootXPath)
    rcases List.mem_append.mp h_other with h_place | h_column
    · obtain ⟨⟨path', _⟩, -, h_eq⟩ := List.mem_map.mp h_place
      obtain ⟨h_key, rfl⟩ := Prod.mk.inj h_eq
      rw [(String.append_right_inj rootXPath).mp h_key]
    · obtain ⟨c, -, h_eq⟩ := List.mem_map.mp h_column
      have h_key := (String.append_right_inj rootXPath).mp (Prod.mk.inj h_eq).1
      rw [← h_key, XPath.take_column] at h_take
      exact absurd h_take (by decide)

/-- No node of the page is at fault. -/
theorem calm_ofTable : (Browser.ofTable rootXPath header body).Calm := by
  refine Browser.calm_of_forall (List.forall_mem_cons.mpr ⟨⟨rfl, rfl⟩,
    List.forall_mem_cons.mpr ⟨⟨rfl, rfl⟩, fun entry h_mem => ?_⟩⟩)
  obtain ⟨place, -, rfl⟩ := List.mem_map.mp h_mem
  exact ⟨rfl, rfl⟩

/-- The xpath of the table finds its node. -/
theorem names_root :
    ((Browser.ofTable rootXPath header body).namesIn (.xpath rootXPath)).head? = some "table" := by
  show ((Keyed.find? rootXPath [(rootXPath, ["table"])]).getD []).head? = _
  rw [Keyed.find?, if_pos rfl]
  rfl

/-- A column that no row has a cell in has no places. -/
theorem columnPlaces_eq_nil {c : Nat} (h : c ∉ columnsOf body) : columnPlaces body c = [] := by
  refine List.filterMap_eq_nil_iff.mpr fun (row, r) h_place => ?_
  have h_row : row ∈ body := List.mem_of_getElem? (List.mem_zipIdx_iff_getElem?.mp h_place)
  have h_le : row.elements.length ≤ c := by
    by_contra h_lt
    exact h (List.mem_flatMap.mpr ⟨row, h_row, List.mem_range.mpr (Nat.not_le.mp h_lt)⟩)
  show row.elements[c]?.map _ = none
  rw [List.getElem?_eq_none h_le]
  rfl

/-- The xpath of a column finds the cells of the column. -/
theorem below_column (c : Nat) :
    (Browser.ofTable rootXPath header body).below "table" (rootXPath ++ XPath.column (c + 1))
      = columnPlaces body c := by
  have h_init : (XPath.column (c + 1)).toList
      = ("//tr/td[".toList ++ (toString (c + 1)).toList) ++ [']'] := by
    rw [XPath.toList_column, List.append_assoc]
  refine Keyed.getD_find?_eq ?_ fun other h_other => ?_
  · by_cases h_column : c ∈ columnsOf body
    · refine .inl (List.mem_cons_of_mem _ (List.mem_append_right _ ?_))
      exact List.mem_map.mpr ⟨c, h_column, rfl⟩
    · exact .inr (columnPlaces_eq_nil h_column)
  · rcases List.mem_cons.mp h_other with h_eq | h_other
    · exact absurd (Prod.mk.inj h_eq).1 (XPath.ne_headerXPath h_init rootXPath)
    rcases List.mem_append.mp h_other with h_place | h_column
    · obtain ⟨⟨path, _⟩, h_mem, h_eq⟩ := List.mem_map.mp h_place
      have h_key := (String.append_right_inj rootXPath).mp (Prod.mk.inj h_eq).1
      have h_take := (shape_of_mem_places h_mem).1
      rw [show path = _ from h_key, XPath.take_column] at h_take
      exact absurd h_take (by decide)
    · obtain ⟨c', -, h_eq⟩ := List.mem_map.mp h_column
      obtain ⟨h_key, rfl⟩ := Prod.mk.inj h_eq
      obtain rfl := Nat.succ.inj (XPath.column_inj ((String.append_right_inj rootXPath).mp h_key))
      rfl

/-- The nodes of a column have the markup of its cells. -/
theorem hasMarkup_columnPlaces (h_writable : ∀ row ∈ body, Writable [row.toNode]) (c : Nat) :
    List.Forall₂ (Browser.ofTable rootXPath header body).HasMarkup (columnPlaces body c)
      (body.filterMap fun row => row.elements[c]?) := by
  have h_body : body.filterMap (fun row => row.elements[c]?)
      = body.zipIdx.filterMap fun place => place.1.elements[c]? := by
    conv_lhs => rw [← List.zipIdx_map_fst 0 body]
    rw [List.filterMap_map]
    rfl
  have h_places : ∀ rows : List (Element × Nat), (∀ place ∈ rows, body[place.2]? = some place.1) →
      List.Forall₂ (Browser.ofTable rootXPath header body).HasMarkup
        (rows.filterMap fun (row, r) =>
          row.elements[c]?.map fun _ => XPath.cell (r + 1) (c + 1))
        (rows.filterMap fun place => place.1.elements[c]?) := by
    intro rows h_rows
    induction rows with
    | nil => exact .nil
    | cons place rest ih =>
      obtain ⟨h_first, h_rest⟩ := List.forall_mem_cons.mp h_rows
      simp only [List.filterMap_cons]
      cases h_cell : place.1.elements[c]? with
      | none => exact ih h_rest
      | some cell =>
        have h_place : (XPath.cell (place.2 + 1) (c + 1), cell) ∈ places body :=
          List.mem_append_right _ (mem_cellPlaces.mpr ⟨_, _, _, h_first, h_cell, rfl⟩)
        have h_row := h_writable place.1 (List.mem_of_getElem? h_first)
        have h_td := h_row.of_mem_elements (List.mem_of_getElem? h_cell)
        exact .cons (hasMarkup_of_mem_places h_place h_td) (ih h_rest)
  rw [h_body]
  exact h_places body.zipIdx fun place h_place => List.mem_zipIdx_iff_getElem?.mp h_place

/-- The page that shows a table has the layout of the table. -/
theorem layout_ofTable (h_writable : ∀ row ∈ body, Writable [row.toNode])
    (h_rows : ∀ row ∈ body, row.tag = "tr")
    (h_cells : ∀ row ∈ body, ∀ cell ∈ row.elements, cell.tag = "td") :
    Layout (Browser.ofTable rootXPath header body) rootXPath "table" header body where
  root_eq := names_root
  header_eq := by
    rw [Browser.headerMarkup?, names_root]
    rfl
  row_tag := h_rows
  cell_tag := h_cells
  row r row h_row := by
    have h_place : (XPath.bodyRow (r + 1), row) ∈ places body :=
      List.mem_append_left _ (mem_rowPlaces.mpr ⟨r, h_row, rfl⟩)
    refine ⟨XPath.bodyRow (r + 1), ?_, hasMarkup_of_mem_places h_place ?_⟩
    · rw [below_of_mem_places h_place]
      rfl
    · exact h_writable row (List.mem_of_getElem? h_row)
  cell r row c cell h_row h_cell := by
    have h_place : (XPath.cell (r + 1) (c + 1), cell) ∈ places body :=
      List.mem_append_right _ (mem_cellPlaces.mpr ⟨r, row, c, h_row, h_cell, rfl⟩)
    have h_tr := h_writable row (List.mem_of_getElem? h_row)
    refine ⟨XPath.cell (r + 1) (c + 1), ?_, hasMarkup_of_mem_places h_place ?_⟩
    · rw [below_of_mem_places h_place]
      rfl
    · exact h_tr.of_mem_elements (List.mem_of_getElem? h_cell)
  column c := by
    rw [below_column]
    exact hasMarkup_columnPlaces h_writable c

-- ============================================================================
-- Plain rows
-- ============================================================================

/-- A cell with a text. -/
def textCell (text : String) : Node :=
  .element "td" [] [.text text]

/-- A row of cells with a text each. -/
def textRow (texts : List String) : Element :=
  ⟨"tr", [], texts.map textCell⟩

theorem elements_textRow (texts : List String) :
    (textRow texts).elements = texts.map fun text => ⟨"td", [], [.text text]⟩ := by
  rw [Element.elements, textRow, List.filterMap_map]
  exact List.filterMap_eq_map_iff_forall_eq_some.mpr fun _ _ => rfl

/-- A cell can be written, whatever its text is. -/
theorem writableElement_textCell (text : String) : WritableElement "td" [] [.text text] where
  tag_name :=
    ⟨Text.forall_mem_of_all (by decide), ⟨'t', rfl, rfl⟩, Text.forall_mem_of_all (by decide)⟩
  attributes_sound := ⟨List.forall_mem_nil _, .nil⟩
  attribute_names := List.forall_mem_nil _
  void_childless := fun h_void => absurd h_void (by decide)
  children_apart := .singleton _
  not_ended := fun _ _ _ h_mem => nomatch List.mem_singleton.mp h_mem

theorem writableElement_textRow (texts : List String) :
    WritableElement "tr" [] (texts.map textCell) where
  tag_name :=
    ⟨Text.forall_mem_of_all (by decide), ⟨'t', rfl, rfl⟩, Text.forall_mem_of_all (by decide)⟩
  attributes_sound := ⟨List.forall_mem_nil _, .nil⟩
  attribute_names := List.forall_mem_nil _
  void_childless := fun h_void => absurd h_void (by decide)
  children_apart := by
    refine List.Pairwise.isChain (List.pairwise_map.mpr ?_)
    exact List.pairwise_of_forall fun _ _ h_both => nomatch h_both.1
  not_ended := by
    intro inner _ _ h_mem
    obtain ⟨text, -, h_eq⟩ := List.mem_map.mp h_mem
    obtain ⟨rfl, -⟩ := Node.element.inj h_eq
    decide

/-- A row of texts that are not empty can be written. -/
theorem writable_textRow {texts : List String} (h : ∀ text ∈ texts, text ≠ "") :
    Writable [(textRow texts).toNode] := by
  have h_cells : ∀ node, Markup.Occurs (texts.map textCell) node → node.IsWritable := by
    induction texts with
    | nil => exact Markup.forall_occurs_nil
    | cons text rest ih =>
      obtain ⟨h_text, h_rest⟩ := List.forall_mem_cons.mp h
      have h_below : ∀ node, Markup.Occurs [.text text] node → node.IsWritable :=
        Markup.forall_occurs_cons h_text Markup.forall_occurs_nil Markup.forall_occurs_nil
      exact Markup.forall_occurs_cons (writableElement_textCell text) h_below (ih h_rest)
  exact ⟨.singleton _,
    Markup.forall_occurs_cons (writableElement_textRow texts) h_cells Markup.forall_occurs_nil⟩

theorem layout_texts {rows : List (List String)} (h : ∀ row ∈ rows, ∀ text ∈ row, text ≠ "") :
    Layout (Browser.ofTable rootXPath header (rows.map textRow)) rootXPath "table" header
      (rows.map textRow) := by
  refine layout_ofTable (fun row h_row => ?_) (fun row h_row => ?_) fun row h_row cell h_cell => ?_
  all_goals obtain ⟨texts, h_texts, rfl⟩ := List.mem_map.mp h_row
  · exact writable_textRow (h texts h_texts)
  · rfl
  · rw [elements_textRow] at h_cell
    obtain ⟨text, -, rfl⟩ := List.mem_map.mp h_cell
    rfl

end Table

end PageObjects
