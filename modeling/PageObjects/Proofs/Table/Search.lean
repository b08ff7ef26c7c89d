/-
  PageObjects.Proofs.Table.Search

  The row of a value. A search reads the cells of a column, from top to bottom, and
  gives the row at the position that the value has among them. The column has a cell
  only for the rows that have one there: the position counts those rows, and is the
  one of the row with the value only if every row above that one is counted.

    * `idxOf?_filterMap_append`, `exists_of_mem_filterMap`: the position of a value in
      a column, and the first row that has it.
    * `rowByValue_ok_iff`: which row a search gives, and when it is the row with the
      value.
-/

import Mathlib.Data.List.Count
import PageObjects.Proofs.Table.Access

namespace PageObjects

open PageObjects.Action
open Markup (Element)
open Table (columnEntries)

-- ============================================================================
-- First rows
-- ============================================================================

/-- The first row of a body that has a value in a column, and the rows above it. -/
structure FirstWith (body : List Element) (c : Nat) (value : String) (above : List Element)
    (found : Element) : Prop where
  split : ∃ below, body = above ++ found :: below
  found_eq : found.elements[c]?.map Table.entry = some (some value)
  above_ne : ∀ row ∈ above, row.elements[c]?.map Table.entry ≠ some (some value)

section
variable {α β : Type} {f : α → Option β} {b : β}

/-- In the values that some items have, the first one of an item counts those of the items before
    it. -/
theorem idxOf?_filterMap_append [BEq β] [LawfulBEq β] {above below : List α} {a : α}
    (h_found : f a = some b) (h_above : ∀ other ∈ above, f other ≠ some b) :
    ((above ++ a :: below).filterMap f).idxOf? b
      = some (above.countP fun other => (f other).isSome) := by
  induction above with
  | nil =>
    rw [List.nil_append, List.filterMap_cons_some h_found, List.idxOf?_cons, beq_self_eq_true]
    rfl
  | cons first rest ih =>
    obtain ⟨h_first, h_rest⟩ := List.forall_mem_cons.mp h_above
    rw [List.cons_append, List.filterMap_cons, List.countP_cons]
    cases h_value : f first with
    | none => exact ih h_rest
    | some other =>
      have h_ne : ¬(other == b) = true := fun h_eq =>
        h_first (h_value.trans (congrArg some (eq_of_beq h_eq)))
      show List.idxOf? b (other :: _) = _
      rw [List.idxOf?_cons, if_neg h_ne, ih h_rest]
      rfl

/-- A value of some item is one of a first item. -/
theorem exists_of_mem_filterMap {items : List α} (h : b ∈ items.filterMap f) :
    ∃ above a below, items = above ++ a :: below ∧ f a = some b
      ∧ ∀ other ∈ above, f other ≠ some b := by
  have h_mem : some b ∈ items.map f := by
    obtain ⟨a, h_a, h_b⟩ := List.mem_filterMap.mp h
    exact List.mem_map.mpr ⟨a, h_a, h_b⟩
  obtain ⟨before, after, h_split, h_first⟩ := List.eq_append_cons_of_mem h_mem
  obtain ⟨above, rest, rfl, rfl, h_rest⟩ := List.map_eq_append_iff.mp h_split
  obtain ⟨a, below, rfl, h_a, -⟩ := List.map_eq_cons_iff.mp h_rest
  refine ⟨above, a, below, rfl, h_a, fun other h_other h_eq => h_first ?_⟩
  exact List.mem_map.mpr ⟨other, h_other, h_eq⟩

end

variable {stage : Browser} {page : Page} {run : Run Browser} {table : Table}
  {root header value : String} {body : List Element} {column : Column}

/-- How many rows have a cell in a column. -/
def cellCount (rows : List Element) (c : Nat) : Nat :=
  rows.countP fun row => c < row.elements.length

theorem columnEntries_eq (body : List Element) (c : Nat) :
    columnEntries body c = body.filterMap fun row => row.elements[c]?.map Table.entry :=
  List.map_filterMap

namespace FirstWith

variable {c : Nat} {above : List Element} {found row : Element}

/-- The position of the value in the column counts the rows above that have a cell there. -/
theorem idxOf?_eq (h : FirstWith body c value above found) :
    (columnEntries body c).idxOf? (some value) = some (cellCount above c) := by
  have h_cell : ∀ row : Element,
      (row.elements[c]?.map Table.entry).isSome = decide (c < row.elements.length) := by
    intro row
    rw [Option.isSome_map, Bool.eq_iff_iff, isSome_getElem?, decide_eq_true_iff]
  obtain ⟨below, h_split⟩ := h.split
  have h_index : ((above ++ found :: below).filterMap fun row =>
        row.elements[c]?.map Table.entry).idxOf? (some value)
      = some (above.countP fun row => (row.elements[c]?.map Table.entry).isSome) :=
    idxOf?_filterMap_append h.found_eq h.above_ne
  simp only [h_cell] at h_index
  rw [columnEntries_eq, h_split, h_index, cellCount]

/-- A value of the column has a first row. -/
theorem exists_of_idxOf? {j : Nat} (h : (columnEntries body c).idxOf? (some value) = some j) :
    ∃ above found, FirstWith body c value above found := by
  have h_mem : some value ∈ columnEntries body c := by
    obtain ⟨h_lt, h_eq, -⟩ := List.idxOf?_eq_some_iff.mp h
    exact h_eq ▸ List.getElem_mem h_lt
  rw [columnEntries_eq] at h_mem
  obtain ⟨above, found, below, h_split, h_found, h_above⟩ := exists_of_mem_filterMap h_mem
  exact ⟨above, found, ⟨below, h_split⟩, h_found, h_above⟩

/-- There is a row at the position of the value, since the column is not longer than the body. -/
theorem exists_row (h : FirstWith body c value above found) :
    ∃ row, body[cellCount above c]? = some row := by
  obtain ⟨below, rfl⟩ := h.split
  have h_le : cellCount above c ≤ above.length := List.countP_le_length
  have h_lt : cellCount above c < (above ++ found :: below).length := by
    rw [List.length_append, List.length_cons]
    omega
  exact ⟨_, List.getElem?_eq_getElem h_lt⟩

/-- The row at the position of the value has the value exactly if no row above lacks a cell. -/
theorem value_iff (h : FirstWith body c value above found)
    (h_row : body[cellCount above c]? = some row) :
    (row.elements.map Table.entry)[c]? = some (some value)
      ↔ ∀ row ∈ above, c < row.elements.length := by
  obtain ⟨below, rfl⟩ := h.split
  rw [List.getElem?_map]
  constructor
  · intro h_value missed h_mem
    by_contra h_short
    have h_lt : cellCount above c < above.length :=
      List.countP_lt_length_iff.mpr ⟨missed, h_mem, decide_eq_false h_short⟩
    rw [List.getElem?_append_left h_lt] at h_row
    exact h.above_ne row (List.mem_of_getElem? h_row) h_value
  · intro h_all
    have h_count : cellCount above c = above.length :=
      List.countP_eq_length.mpr fun row h_mem => decide_eq_true (h_all row h_mem)
    rw [h_count, List.getElem?_append_right (Nat.le_refl _), Nat.sub_self] at h_row
    obtain rfl : found = row := Option.some.inj h_row
    exact h.found_eq

end FirstWith

-- ============================================================================
-- The search
-- ============================================================================

namespace Table

variable {c : Nat} {above : List Element} {found row : Element}

theorem indexByValue_succeeds (h_calm : stage.Calm) (h : Settled stage run)
    (h_root : Names stage run table.root root)
    (h_layout : Layout stage table.rootXPath root header body)
    (h_column : table.columnIndex column = .ok (c + 1)) (h_lt : c < table.columnCount)
    (h_first : FirstWith body c value above found) :
    Succeeds stage page run (table.indexByValue column value) fun position _ =>
      position = cellCount above c + 1 := by
  have h_values : Succeeds stage page run (table.valuesOf column) fun values _ =>
      values = columnEntries body c := by
    refine .bind (.lift h h_column) fun position run' h_follows h_position => ?_
    subst h_position
    exact columnValues_succeeds h_calm h_follows.settled (h_follows.names h_root) h_layout h_lt
  refine .bind h_values fun values run' h_follows h_values => ?_
  subst h_values
  rw [h_first.idxOf?_eq]
  exact .pure h_follows.settled rfl

theorem rowByValue_succeeds (h_calm : stage.Calm) (h : Settled stage run)
    (h_root : Names stage run table.root root)
    (h_layout : Layout stage table.rootXPath root header body)
    (h_column : table.columnIndex column = .ok (c + 1)) (h_lt : c < table.columnCount)
    (h_first : FirstWith body c value above found)
    (h_row : body[cellCount above c]? = some row) :
    Succeeds stage page run (table.rowByValue column value) fun values _ =>
      values = row.elements.map entry := by
  have h_tag := h_layout.row_tag row (List.mem_of_getElem? h_row)
  refine .bind (indexByValue_succeeds h_calm h h_root h_layout h_column h_lt h_first)
    fun position run' h_follows h_position => ?_
  subst h_position
  exact rowValues_succeeds h_calm h_follows.settled (h_follows.names h_root)
    (h_layout.row _ row h_row) h_tag

/-- A search that gives a position has a first row with the value. -/
theorem indexByValue_finds (h_calm : stage.Calm) (h_root : Names stage run table.root root)
    (h_layout : Layout stage table.rootXPath root header body) :
    Leads stage page run (table.indexByValue column value) fun _ _ =>
      ∃ c above found, table.columnIndex column = .ok (c + 1) ∧ c < table.columnCount
        ∧ FirstWith body c value above found := by
  have h_values : Leads stage page run (table.valuesOf column) fun values _ =>
      ∃ c, table.columnIndex column = .ok (c + 1) ∧ c < table.columnCount
        ∧ values = columnEntries body c := by
    refine .bind (.lift _) fun position run' h_follows h_column => ?_
    by_cases h_there : position = 0 ∨ table.columnCount < position
    · rw [columnValues, if_pos h_there]
      exact .throw_bind _ _
    · obtain ⟨c, rfl⟩ := Nat.exists_eq_add_of_le' (Nat.pos_of_ne_zero (not_or.mp h_there).1)
      have h_lt : c < table.columnCount := by omega
      refine Succeeds.leads fun run'' h_follows' => ?_
      have h_names := (h_follows.trans h_follows').names h_root
      exact (columnValues_succeeds h_calm h_follows'.settled h_names h_layout h_lt).weaken
        fun values _ h_values => ⟨c, h_column, h_lt, h_values⟩
  refine .bind h_values fun values run' h_follows h_known => ?_
  obtain ⟨c, h_column, h_lt, rfl⟩ := h_known
  cases h_index : (columnEntries body c).idxOf? (some value) with
  | none => exact .throw _
  | some j =>
    obtain ⟨above, found, h_first⟩ := FirstWith.exists_of_idxOf? h_index
    exact .pure fun _ _ => ⟨c, above, found, h_column, h_lt, h_first⟩

/-- However a test has come to a table: a search for a value in a column gives a row exactly if some
    row has the value there. It gives the row at the position of the value among the cells of the
    column, and that row has the value exactly if every row above the first row with the value has
    a cell in the column. -/
theorem rowByValue_ok_iff {tables : List Table} {values : List (Option String)}
    (h_calm : stage.Calm) (h_viewing : Viewing stage page tables run) (h_mem : table ∈ tables)
    (h_layout : Layout stage table.rootXPath root header body) :
    (table.rowByValue column value ⟨Browser.driver, page⟩ run).1 = .ok values
      ↔ ∃ c above found row, table.columnIndex column = .ok (c + 1) ∧ c < table.columnCount
        ∧ FirstWith body c value above found ∧ body[cellCount above c]? = some row
        ∧ values = row.elements.map entry
        ∧ (values[c]? = some (some value) ↔ ∀ row ∈ above, c < row.elements.length) := by
  obtain ⟨h_settled, h_all⟩ := h_viewing.inView h_calm
  have h_seen := h_all table h_mem
  have h_root := h_seen.names_root h_layout.root_eq
  have h_gives : ∀ {c above found row}, table.columnIndex column = .ok (c + 1) →
      c < table.columnCount → FirstWith body c value above found →
      body[cellCount above c]? = some row →
      (table.rowByValue column value ⟨Browser.driver, page⟩ run).1
        = .ok (row.elements.map entry) := fun h_column h_lt h_first h_row =>
    (rowByValue_succeeds h_calm h_settled h_root h_layout h_column h_lt h_first h_row).result_eq
  constructor
  · intro h_ok
    have h_search : Leads stage page run (table.rowByValue column value) fun _ _ =>
        ∃ c above found, table.columnIndex column = .ok (c + 1) ∧ c < table.columnCount
          ∧ FirstWith body c value above found :=
      .bind (indexByValue_finds h_calm h_root h_layout) fun _ _ h_follows h_found =>
        (valuesAt_leads h_calm (h_follows.seen h_seen) _ _).weaken fun _ _ _ => h_found
    obtain ⟨c, above, found, h_column, h_lt, h_first⟩ := h_search.of_ok h_settled h_ok
    obtain ⟨row, h_row⟩ := h_first.exists_row
    have h_values := h_gives h_column h_lt h_first h_row
    rw [h_ok] at h_values
    obtain rfl := Except.ok.inj h_values
    exact ⟨c, above, found, row, h_column, h_lt, h_first, h_row, rfl, h_first.value_iff h_row⟩
  · rintro ⟨c, above, found, row, h_column, h_lt, h_first, h_row, rfl, -⟩
    exact h_gives h_column h_lt h_first h_row

end Table

/-- A page that shows a table whose first row ends before its second column. -/
def Browser.withShortRow : Browser :=
  ofTable "//p-table" "<tr><th>Id</th><th>Title</th></tr>"
    ([["1"], ["2", "Lamp"]].map Table.textRow)

/-- The title is found in the second row, and the first row is given. -/
theorem Table.rowByValue_ok_shortRow : ∃ table run,
    Viewing Browser.withShortRow Page.withOrders [table] run
      ∧ table.columnIndex (.named "Title") = .ok 2
      ∧ (table.rowByValue (.named "Title") "Lamp" ⟨Browser.driver, Page.withOrders⟩ run).1
        = .ok [some "1"] := by
  have h_opened : Viewing Browser.withShortRow Page.withOrders []
      (Page.visit none [] ⟨Browser.driver, Page.withOrders⟩ { world := Browser.withShortRow }).2 :=
    .visit none [] (.look .start)
  obtain ⟨table, run, h_viewing, h_table, -⟩ :=
    h_opened.rerendered "orders"
      (fun table => table.rootXPath = "//p-table" ∧ table.columnIndex (.named "Title") = .ok 2
        ∧ table.columnCount = 2)
      (by decide +kernel)
  obtain ⟨h_root, h_column, h_count⟩ := of_decide_eq_true h_table
  have h_layout : Layout Browser.withShortRow table.rootXPath "table"
      "<tr><th>Id</th><th>Title</th></tr>" ([["1"], ["2", "Lamp"]].map Table.textRow) :=
    h_root ▸ Table.layout_texts (by decide)
  have h_lt : 1 < table.columnCount := by omega
  have h_first : FirstWith ([["1"], ["2", "Lamp"]].map Table.textRow) 1 "Lamp"
      [Table.textRow ["1"]] (Table.textRow ["2", "Lamp"]) :=
    ⟨⟨[], rfl⟩, by decide +kernel, by decide +kernel⟩
  refine ⟨table, run, h_viewing, h_column, ?_⟩
  exact (Table.rowByValue_ok_iff Table.calm_ofTable h_viewing List.mem_cons_self h_layout).mpr
    ⟨1, _, _, Table.textRow ["1"], h_column, h_lt, h_first, rfl, by decide +kernel,
      by decide +kernel⟩

end PageObjects
