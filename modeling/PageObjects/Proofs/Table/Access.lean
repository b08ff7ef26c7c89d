/-
  PageObjects.Proofs.Table.Access

  Three ways to a cell of a table: by its row and column, through the values of its
  row, and through the values of its column. Where the page shows the table with a
  `Layout` every way gives the entries of the body.

    * `cell_succeeds`, `rowValues_succeeds`, `columnValues_succeeds`: one way each, for
      rows of any lengths.
    * `access_agrees`: in a body whose rows have a cell for each column the three ways
      lead to the same entry.
-/

import PageObjects.Proofs.Table.Layout

namespace PageObjects

open PageObjects.Action
open Markup (Element IsMarkupOf)

variable {stage : Browser} {page : Page} {run : Run Browser} {table : Table}
  {root header : String} {body : List Element}

/-- The root of a table names the node that the layout has for it. -/
theorem Seen.names_root (h : Seen stage run table)
    (h_root : (stage.namesIn (.xpath table.rootXPath)).head? = some root) :
    Names stage run table.root root := by
  obtain ⟨node, h_node, h_names⟩ := h.root
  obtain rfl : root = node := Option.some.inj (h_root.symm.trans h_node)
  exact h_names

/-- A table has all genuine columns of its header. -/
theorem Seen.length_columnCells_le (h : Seen stage run table)
    (h_header : stage.headerMarkup? table.rootXPath = some header) :
    (Header.columnCells (Markup.parse header)).length ≤ table.columnCount := by
  obtain ⟨markup, tracked, h_markup, h_parse⟩ := h.header
  obtain rfl : header = markup := Option.some.inj (h_header.symm.trans h_markup)
  exact Header.length_columnCells_le h_parse

-- ============================================================================
-- Each way
-- ============================================================================

namespace Handle

/-- The markup of an element that a node shows. -/
theorem outerHtml_succeeds (h_calm : stage.Calm) (h : Settled stage run) {handle : Handle}
    {node : String} {e : Element} (h_handle : Names stage run handle node)
    (h_markup : stage.HasMarkup node e) :
    Succeeds stage page run handle.outerHtml fun markup _ => IsMarkupOf markup e := by
  obtain ⟨markup, h_attribute, h_is⟩ := h_markup
  have h_gives : Gives stage page run handle.outerHtml _ := outerHtml_gives h_calm h h_handle
  rw [h_attribute] at h_gives
  obtain ⟨found, run', h_run, h_follows, rfl⟩ := Succeeds.of_gives h_gives
  exact ⟨_, run', h_run, h_follows, h_is⟩

end Handle

namespace Table

theorem item_succeeds (h_calm : stage.Calm) (h : Settled stage run)
    (h_root : Names stage run table.root root) {xpath : String} {e : Element}
    (h_shows : stage.ShowsAt root (table.rootXPath ++ xpath) e) :
    Succeeds stage page run (table.item xpath) fun handle run' =>
      ∃ node, Names stage run' handle node ∧ stage.HasMarkup node e := by
  obtain ⟨node, h_node, h_markup⟩ := h_shows
  have h_find : Succeeds stage page run (table.root.find (.xpath (table.rootXPath ++ xpath)))
      fun handle run' => Names stage run' handle node :=
    Handle.find_succeeds h_calm h h_root h_node
  exact (h_find.weaken fun handle run' h_names => ⟨node, h_names, h_markup⟩).tryCatch _

/-- A cell is read as its entry. -/
theorem cell_succeeds (h_calm : stage.Calm) (h : Settled stage run)
    (h_root : Names stage run table.root root) {row column : Nat} {cell : Element}
    (h_shows : stage.ShowsAt root (table.rootXPath ++ XPath.cell row column) cell)
    (h_tag : cell.tag = "td") :
    Succeeds stage page run (table.cell row column) fun value _ => value = entry cell := by
  refine .bind ((item_succeeds h_calm h h_root h_shows).tryCatch _)
    fun handle run' h_follows h_handle => ?_
  obtain ⟨node, h_names, h_markup⟩ := h_handle
  refine .bind (Handle.outerHtml_succeeds h_calm h_follows.settled h_names h_markup)
    fun markup run'' h_follows' h_is => ?_
  exact .lift h_follows'.settled (parseCell_eq_ok h_is h_tag)

/-- A row is read as the entries of its cells. -/
theorem rowValues_succeeds (h_calm : stage.Calm) (h : Settled stage run)
    (h_root : Names stage run table.root root) {position : Nat} {row : Element}
    (h_shows : stage.ShowsAt root (table.rootXPath ++ XPath.bodyRow position) row)
    (h_tag : row.tag = "tr") :
    Succeeds stage page run (table.rowValues position) fun values _ =>
      values = row.elements.map entry := by
  refine .bind ((item_succeeds h_calm h h_root h_shows).tryCatch _)
    fun handle run' h_follows h_handle => ?_
  obtain ⟨node, h_names, h_markup⟩ := h_handle
  refine .bind (Handle.outerHtml_succeeds h_calm h_follows.settled h_names h_markup)
    fun markup run'' h_follows' h_is => ?_
  exact .lift h_follows'.settled (parseRow_eq_ok h_is h_tag)

/-- Some cells are read one after the other as their entries. -/
theorem cellValues_succeeds (h_calm : stage.Calm) (h : Settled stage run) {handles : List Handle}
    {nodes : List String} {cells : List Element}
    (h_handles : List.Forall₂ (Names stage run) handles nodes)
    (h_markup : List.Forall₂ stage.HasMarkup nodes cells)
    (h_tag : ∀ cell ∈ cells, cell.tag = "td") :
    Succeeds stage page run (cellValues handles) fun values _ => values = cells.map entry := by
  induction handles generalizing run nodes cells with
  | nil =>
    cases h_handles
    cases h_markup
    exact .pure h rfl
  | cons handle handles ih =>
    obtain ⟨node, nodes, h_first, h_others, rfl⟩ := List.forall₂_cons_left_iff.mp h_handles
    obtain ⟨cell, cells, h_cell, h_cells, rfl⟩ := List.forall₂_cons_left_iff.mp h_markup
    obtain ⟨h_td, h_tds⟩ := List.forall_mem_cons.mp h_tag
    refine .bind (Handle.outerHtml_succeeds h_calm h h_first h_cell)
      fun markup run' h_follows h_is => ?_
    refine .bind (.lift h_follows.settled (parseCell_eq_ok h_is h_td))
      fun value run'' h_follows' h_value => ?_
    have h_kept := (h_follows.trans h_follows').names_all h_others
    refine .bind (ih h_follows'.settled h_kept h_cells h_tds) fun values last h_last h_values => ?_
    subst h_value h_values
    exact .pure h_last.settled rfl

/-- The entries of a column, from top to bottom, of the rows that have a cell there. -/
def columnEntries (body : List Element) (c : Nat) : List (Option String) :=
  (body.filterMap fun row => row.elements[c]?).map entry

/-- A column is read as the entries of its cells. -/
theorem columnValues_succeeds (h_calm : stage.Calm) (h : Settled stage run)
    (h_root : Names stage run table.root root)
    (h_layout : Layout stage table.rootXPath root header body) {c : Nat}
    (h_lt : c < table.columnCount) :
    Succeeds stage page run (table.columnValues (c + 1)) fun values _ =>
      values = columnEntries body c := by
  have h_tags : ∀ cell ∈ body.filterMap (fun row => row.elements[c]?), cell.tag = "td" := by
    intro cell h_mem
    obtain ⟨row, h_row, h_cell⟩ := List.mem_filterMap.mp h_mem
    exact h_layout.cell_tag row h_row cell (List.mem_of_getElem? h_cell)
  have h_there : ¬(c + 1 = 0 ∨ table.columnCount < c + 1) := by omega
  rw [columnValues, if_neg h_there]
  refine .bind (Handle.findAll_succeeds h_calm h h_root _)
    fun handles run' h_follows h_handles => ?_
  exact cellValues_succeeds h_calm h_follows.settled h_handles (h_layout.column c) h_tags

end Table

-- ============================================================================
-- All ways
-- ============================================================================

/-- Where every row has a cell in a column, the column has the cell of each row. -/
theorem getElem?_filterMap_of_full {rows : List Element} {c : Nat}
    (h : ∀ row ∈ rows, c < row.elements.length) (r : Nat) :
    (rows.filterMap fun row => row.elements[c]?)[r]?
      = rows[r]?.bind fun row => row.elements[c]? := by
  induction rows generalizing r with
  | nil => rfl
  | cons row rest ih =>
    obtain ⟨h_row, h_rest⟩ := List.forall_mem_cons.mp h
    have h_cell : row.elements[c]? = some row.elements[c] := List.getElem?_eq_getElem h_row
    simp only [List.filterMap_cons, h_cell]
    cases r with
    | zero => exact h_cell.symm
    | succ r => exact ih h_rest r

namespace Table

/-- However a test has come to a table and whatever has gone stale since: in a body with a cell for
    each genuine column in every row, the cell of a row and a column, the value of the row at the
    column and the value of the column at the row are all read, and are the entry of the cell. -/
theorem access_agrees {tables : List Table} (h_calm : stage.Calm)
    (h_viewing : Viewing stage page tables run) (h_mem : table ∈ tables)
    (h_layout : Layout stage table.rootXPath root header body)
    (h_full : ∀ row ∈ body,
      row.elements.length = (Header.columnCells (Markup.parse header)).length)
    {r c : Nat} (h_r : 1 ≤ r ∧ r ≤ body.length)
    (h_c : 1 ≤ c ∧ c ≤ (Header.columnCells (Markup.parse header)).length) :
    ∃ row cell, body[r - 1]? = some row ∧ row.elements[c - 1]? = some cell
      ∧ (table.cell r c ⟨Browser.driver, page⟩ run).1 = .ok (entry cell)
      ∧ (∃ values, (table.rowValues r ⟨Browser.driver, page⟩ run).1 = .ok values
        ∧ values[c - 1]? = some (entry cell))
      ∧ ∃ values, (table.columnValues c ⟨Browser.driver, page⟩ run).1 = .ok values
        ∧ values[r - 1]? = some (entry cell) := by
  obtain ⟨h_settled, h_all⟩ := h_viewing.inView h_calm
  have h_seen := h_all table h_mem
  have h_root := h_seen.names_root h_layout.root_eq
  have h_width := h_seen.length_columnCells_le h_layout.header_eq
  obtain ⟨r, rfl⟩ := Nat.exists_eq_add_of_le' h_r.1
  obtain ⟨c, rfl⟩ := Nat.exists_eq_add_of_le' h_c.1
  have h_row : body[r]? = some body[r] := List.getElem?_eq_getElem h_r.2
  have h_lt : c < body[r].elements.length := by
    rw [h_full _ (List.getElem_mem _)]
    exact h_c.2
  have h_cell : body[r].elements[c]? = some body[r].elements[c] := List.getElem?_eq_getElem h_lt
  have h_td := h_layout.cell_tag _ (List.getElem_mem _) _ (List.getElem_mem h_lt)
  have h_tr := h_layout.row_tag _ (List.getElem_mem h_r.2)
  have h_by_cell : (table.cell (r + 1) (c + 1) ⟨Browser.driver, page⟩ run).1
      = .ok (entry body[r].elements[c]) :=
    (cell_succeeds h_calm h_settled h_root (h_layout.cell r _ c _ h_row h_cell) h_td).result_eq
  have h_by_row : (table.rowValues (r + 1) ⟨Browser.driver, page⟩ run).1
      = .ok (body[r].elements.map entry) :=
    (rowValues_succeeds h_calm h_settled h_root (h_layout.row r _ h_row) h_tr).result_eq
  have h_by_column : (table.columnValues (c + 1) ⟨Browser.driver, page⟩ run).1
      = .ok (columnEntries body c) :=
    (columnValues_succeeds h_calm h_settled h_root h_layout
      (Nat.lt_of_lt_of_le h_c.2 h_width)).result_eq
  refine ⟨body[r], body[r].elements[c], h_row, h_cell, h_by_cell, ⟨_, h_by_row, ?_⟩,
    _, h_by_column, ?_⟩
  · rw [List.getElem?_map, Nat.add_sub_cancel, h_cell]
    rfl
  · have h_column : ∀ row ∈ body, c < row.elements.length := by
      intro row h_mem_row
      rw [h_full row h_mem_row]
      exact h_c.2
    rw [columnEntries, List.getElem?_map, Nat.add_sub_cancel, getElem?_filterMap_of_full h_column,
      h_row, Option.bind_some, h_cell]
    rfl

end Table

/-- A page that shows things in a table with two columns. -/
def Browser.withThings : Browser :=
  ofTable "//p-table" "<tr><th>Id</th><th>Title</th></tr>"
    ([["1", "Desk"], ["2", "Lamp"]].map Table.textRow)

/-- A page with a slot for a table. -/
def Page.withOrders : Page :=
  { Page.bare with tables := [("orders", {})] }

/-- The second title, read through a table that was got before the page was rendered anew. -/
theorem Table.access_agrees_secondTitle : ∃ table run,
    Viewing Browser.withThings Page.withOrders [table] run ∧ run.world.rendering = 2
      ∧ (table.cell 2 2 ⟨Browser.driver, Page.withOrders⟩ run).1 = .ok (some "Lamp")
      ∧ (∃ values, (table.rowValues 2 ⟨Browser.driver, Page.withOrders⟩ run).1 = .ok values
        ∧ values[1]? = some (some "Lamp"))
      ∧ ∃ values, (table.columnValues 2 ⟨Browser.driver, Page.withOrders⟩ run).1 = .ok values
        ∧ values[1]? = some (some "Lamp") := by
  have h_opened : Viewing Browser.withThings Page.withOrders []
      (Page.visit none [] ⟨Browser.driver, Page.withOrders⟩ { world := Browser.withThings }).2 :=
    .visit none [] (.look .start)
  obtain ⟨table, run, h_viewing, h_root, h_rendering⟩ :=
    h_opened.rerendered "orders" (·.rootXPath = "//p-table")
      (by decide +kernel)
  have h_layout : Layout Browser.withThings table.rootXPath "table"
      "<tr><th>Id</th><th>Title</th></tr>" ([["1", "Desk"], ["2", "Lamp"]].map Table.textRow) :=
    of_decide_eq_true h_root ▸ Table.layout_texts (by decide)
  obtain ⟨row, cell, h_row, h_cell, h_ways⟩ := Table.access_agrees Table.calm_ofTable h_viewing
    List.mem_cons_self h_layout (by decide +kernel) (r := 2) (c := 2) (by decide)
    (by decide +kernel)
  obtain rfl := Option.some.inj h_row
  obtain rfl := Option.some.inj h_cell
  exact ⟨table, run, h_viewing, h_rendering.trans (by decide +kernel), h_ways⟩

end PageObjects
