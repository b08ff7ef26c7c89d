/-
  PageObjects.Proofs.Table.Missing

  What is said of a cell that is not there. The cell is looked for by one query through the
  root of its table; where nothing is found, a second query looks for the row. The two
  answers and the number of columns decide what the error says. A fault other than that
  nothing was found is passed on from either query.

    * `Table.seek` is a query through the root. As long as the browser does not find the
      root stale, `run_item_of_ok` and `run_item_of_error` say what becomes of its answer.
    * `Table.cellElement_missing`: what the error of a missing cell says, for any driver.
      Column 0 is taken for one that the table has.
-/

import PageObjects.Proofs.Recovery.Abiding
import PageObjects.Proofs.Table.Loading

namespace PageObjects

open PageObjects.Action

variable {W : Type} {driver : Driver W} {page : Page} {run run' : Run W}

-- ============================================================================
-- Calls through live references
-- ============================================================================

namespace Handle

variable {handle : Handle} {locator : Locator}

/-- A call through a reference that is not found stale is made once. -/
theorem run_perform_of_ne_stale {call : ElementCall} {answer : Except Fault call.Answer}
    (h_ask : run.exchange driver (.element (run.referenceAt handle.own.id) call)
      = (answer, run'))
    (h_live : answer ≠ .error .stale) :
    handle.perform call ⟨driver, page⟩ run
      = (answer.mapError fun fault => .ofFault fault handle.own.context call.operation, run') := by
  obtain ⟨own, ancestors⟩ := handle
  cases ancestors with
  | nil => exact run_recovering_of_ne_stale h_ask h_live
  | cons parent rest => exact run_recovering_of_ne_stale h_ask h_live

theorem run_find_of_error {fault : Fault}
    (h_ask : run.exchange driver
        (.element (run.referenceAt handle.own.id) (.find locator)) = (.error fault, run'))
    (h_live : fault ≠ .stale) :
    handle.find locator ⟨driver, page⟩ run
      = (.error (.ofFault fault handle.own.context "find_element"), run') := by
  have h_ne : (.error fault : Except Fault Reference) ≠ .error .stale := by
    intro h_eq
    exact h_live (Except.error.inj h_eq)
  have h_perform : handle.perform (.find locator) ⟨driver, page⟩ run = _ :=
    run_perform_of_ne_stale h_ask h_ne
  rw [find, run_bind, h_perform]
  rfl

/-- What is found gets a handle inside the element. -/
theorem run_find_of_ok {reference : Reference}
    (h_ask : run.exchange driver
        (.element (run.referenceAt handle.own.id) (.find locator)) = (.ok reference, run')) :
    ∃ found after, handle.find locator ⟨driver, page⟩ run = (.ok found, after)
      ∧ after.referenceAt found.own.id = reference ∧ found.own.locator = locator
      ∧ found.ancestors = handle.chain := by
  have h_ne : (.ok reference : Except Fault Reference) ≠ .error .stale := nofun
  have h_perform : handle.perform (.find locator) ⟨driver, page⟩ run = _ :=
    run_perform_of_ne_stale h_ask h_ne
  refine ⟨⟨⟨run'.nextId, locator, none, false, none⟩, handle.chain⟩,
    { run' with
      nextId := run'.nextId + 1, references := run'.references.put run'.nextId reference },
    ?_, ?_, rfl, rfl⟩
  · rw [find, run_bind, h_perform]
    rfl
  · rw [Run.referenceAt, Keyed.find?_put_self, Option.getD_some]

end Handle

-- ============================================================================
-- Items of a table
-- ============================================================================

namespace Table

variable {table : Table} {xpath : String}

/-- The query for the first element at an xpath below the root, made through the present reference
    of the root. -/
def seek (driver : Driver W) (table : Table) (xpath : String) (run : Run W) :
    Except Fault Reference × Run W :=
  run.exchange driver
    (.element (run.referenceAt table.root.own.id) (.find (.xpath (table.rootXPath ++ xpath))))

/-- The answer to a query that finds nothing. -/
def Misses (answer : Except Fault Reference) : Prop :=
  ∃ locator, answer = .error (.noSuchElement locator)

/-- The error for an item that is not there. -/
def noItem (table : Table) (xpath : String) : PageError :=
  .tableElementNotFound
    ("Element not found by xpath value: " ++ Text.quoted (table.rootXPath ++ xpath))

theorem run_item_of_ok {reference : Reference}
    (h_seek : table.seek driver xpath run = (.ok reference, run')) :
    ∃ item after, table.item xpath ⟨driver, page⟩ run = (.ok item, after)
      ∧ after.referenceAt item.own.id = reference
      ∧ item.own.locator = .xpath (table.rootXPath ++ xpath)
      ∧ item.ancestors = table.root.chain := by
  obtain ⟨item, after, h_find, h_item⟩ := Handle.run_find_of_ok h_seek
  refine ⟨item, after, ?_, h_item⟩
  rw [Table.item, run_tryCatch, h_find]

theorem run_item_of_miss {locator : String}
    (h_seek : table.seek driver xpath run = (.error (.noSuchElement locator), run')) :
    table.item xpath ⟨driver, page⟩ run = (.error (table.noItem xpath), run') := by
  rw [Table.item, run_tryCatch, Handle.run_find_of_error h_seek nofun]
  rfl

theorem run_item_of_other {message : String}
    (h_seek : table.seek driver xpath run = (.error (.other message), run')) :
    table.item xpath ⟨driver, page⟩ run
      = (.error (.driver table.root.own.context "find_element" message), run') := by
  rw [Table.item, run_tryCatch, Handle.run_find_of_error h_seek nofun]
  rfl

-- ============================================================================
-- Cells
-- ============================================================================

variable {row column : Nat} {searched looked : Run W}

/-- A row that is not there explains any miss. -/
theorem run_explainMiss_of_miss {locator : String} (miss : PageError)
    (h_seek : table.seek driver (XPath.bodyRow row) run
      = (.error (.noSuchElement locator), run')) :
    table.explainMiss row column miss ⟨driver, page⟩ run = (.error (table.noRow row), run') := by
  rw [explainMiss, run_bind, orMiss, run_tryCatch, run_item_of_miss h_seek]
  rfl

theorem run_explainMiss_of_other {message : String} (miss : PageError)
    (h_seek : table.seek driver (XPath.bodyRow row) run = (.error (.other message), run')) :
    table.explainMiss row column miss ⟨driver, page⟩ run
      = (.error (.driver table.root.own.context "find_element" message), run') := by
  rw [explainMiss, run_bind, orMiss, run_tryCatch, run_item_of_other h_seek]
  rfl

/-- In a row that is there, the column is to blame if it is behind the last one. -/
theorem run_explainMiss_of_ok {reference : Reference} (miss : PageError)
    (h_seek : table.seek driver (XPath.bodyRow row) run = (.ok reference, run')) :
    (table.explainMiss row column miss ⟨driver, page⟩ run).1
      = .error (if table.columnCount < column then table.noColumn column else miss) := by
  obtain ⟨item, after, h_item, -⟩ := run_item_of_ok h_seek
  rw [explainMiss, run_bind, orMiss, run_tryCatch, h_item]
  rfl

theorem cellElement_of_miss {locator : String}
    (h_cell : table.seek driver (XPath.cell row column) run
      = (.error (.noSuchElement locator), searched)) :
    table.cellElement row column ⟨driver, page⟩ run
      = table.explainMiss row column (table.noItem (XPath.cell row column))
        ⟨driver, page⟩ searched := by
  rw [cellElement, run_tryCatch, run_item_of_miss h_cell]
  rfl

theorem cellElement_of_other {message : String}
    (h_cell : table.seek driver (XPath.cell row column) run
      = (.error (.other message), searched)) :
    table.cellElement row column ⟨driver, page⟩ run
      = (.error (.driver table.root.own.context "find_element" message), searched) := by
  rw [cellElement, run_tryCatch, run_item_of_other h_cell]
  rfl

/-- A table does not read the cells of a column that it does not have, and there is no column 0. -/
theorem columnValues_refuses (h : column = 0 ∨ table.columnCount < column) (run : Run W) :
    table.columnValues column ⟨driver, page⟩ run = (.error (table.noColumn column), run) := by
  rw [columnValues, if_pos h, run_bind, run_throw]

variable {cellFound rowFound : Except Fault Reference} {outcome : Except PageError Handle}
  {after : Run W}

/-- The answers to the query for a cell and to the query for its row right after it. The root of
    the table is live: neither query finds it stale. -/
structure Seeks (driver : Driver W) (table : Table) (row column : Nat) (run : Run W)
    (cellFound rowFound : Except Fault Reference) : Prop where
  cell : (table.seek driver (XPath.cell row column) run).1 = cellFound
  row : (table.seek driver (XPath.bodyRow row)
    (table.seek driver (XPath.cell row column) run).2).1 = rowFound
  cell_live : cellFound ≠ .error .stale
  row_live : rowFound ≠ .error .stale

/-- All that a look for a cell can come to. -/
theorem cellElement_cases (h : table.Seeks driver row column run cellFound rowFound)
    (h_outcome : table.cellElement row column ⟨driver, page⟩ run = (outcome, after)) :
    (∃ cell, cellFound = .ok (after.referenceAt cell.own.id) ∧ outcome = .ok cell
        ∧ cell.own.locator = .xpath (table.rootXPath ++ XPath.cell row column)
        ∧ cell.ancestors = table.root.chain)
      ∨ (∃ message, cellFound = .error (.other message)
        ∧ outcome = .error (.driver table.root.own.context "find_element" message))
      ∨ Misses cellFound ∧ (Misses rowFound ∧ outcome = .error (table.noRow row)
        ∨ (∃ message, rowFound = .error (.other message)
          ∧ outcome = .error (.driver table.root.own.context "find_element" message))
        ∨ ∃ reference, rowFound = .ok reference ∧ outcome = .error
          (if table.columnCount < column then table.noColumn column
            else table.noItem (XPath.cell row column))) := by
  obtain ⟨h_cell, h_row, h_live, h_rowLive⟩ := h
  rcases h_searched : table.seek driver (XPath.cell row column) run with ⟨found, searched⟩
  rw [h_searched] at h_cell h_row
  obtain rfl : found = cellFound := h_cell
  cases found with
  | ok reference =>
    have h_found : ∃ cell found, table.item _ ⟨driver, page⟩ run = (.ok cell, found) ∧ _ ∧ _ :=
      run_item_of_ok h_searched
    obtain ⟨cell, found, h_item, h_reference, h_place⟩ := h_found
    rw [cellElement, run_tryCatch, h_item] at h_outcome
    obtain ⟨rfl, rfl⟩ := Prod.mk.inj h_outcome
    exact .inl ⟨cell, by rw [h_reference], rfl, h_place⟩
  | error fault =>
    cases fault with
    | stale => exact absurd rfl h_live
    | other message =>
      rw [cellElement_of_other h_searched] at h_outcome
      obtain ⟨rfl, rfl⟩ := Prod.mk.inj h_outcome
      exact .inr (.inl ⟨message, rfl, rfl⟩)
    | noSuchElement locator =>
      rw [cellElement_of_miss h_searched] at h_outcome
      refine .inr (.inr ⟨⟨locator, rfl⟩, ?_⟩)
      -- the answer to the query for the row decides
      rcases h_looked : table.seek driver (XPath.bodyRow row) searched with ⟨answer, looked⟩
      rw [h_looked] at h_row
      obtain rfl : answer = rowFound := h_row
      cases answer with
      | ok reference =>
        have h_explained : (table.explainMiss row column (table.noItem (XPath.cell row column))
            ⟨driver, page⟩ searched).1 = _ :=
          run_explainMiss_of_ok (table.noItem (XPath.cell row column)) h_looked
        rw [h_outcome] at h_explained
        exact .inr (.inr ⟨reference, rfl, h_explained⟩)
      | error fault =>
        cases fault with
        | stale => exact absurd rfl h_rowLive
        | other message =>
          rw [run_explainMiss_of_other _ h_looked] at h_outcome
          obtain ⟨rfl, rfl⟩ := Prod.mk.inj h_outcome
          exact .inr (.inl ⟨message, rfl, rfl⟩)
        | noSuchElement locator =>
          rw [run_explainMiss_of_miss _ h_looked] at h_outcome
          obtain ⟨rfl, rfl⟩ := Prod.mk.inj h_outcome
          exact .inl ⟨⟨locator, rfl⟩, rfl⟩

/-- A cell is found if the query for it finds something. Else the error says that the row is
    missing, if the query for the row finds nothing; that the column is missing, if the row is
    there and the table has fewer columns; or that the cell is missing, in a column that is not
    behind the last one. So a cell of column 0 is said to be missing in a column of the table, of
    which the table refuses to read the values. A driver fault of either query is passed on, and the
    error is never that nothing matches a locator. -/
theorem cellElement_missing (h : table.Seeks driver row column run cellFound rowFound)
    (h_outcome : table.cellElement row column ⟨driver, page⟩ run = (outcome, after)) :
    (∀ cell, outcome = .ok cell → cellFound = .ok (after.referenceAt cell.own.id)
        ∧ cell.own.locator = .xpath (table.rootXPath ++ XPath.cell row column)
        ∧ cell.ancestors = table.root.chain)
      ∧ ((∃ cell, outcome = .ok cell) ↔ ∃ reference, cellFound = .ok reference)
      ∧ (outcome = .error (table.noRow row) ↔ Misses cellFound ∧ Misses rowFound)
      ∧ (outcome = .error (table.noColumn column) ↔
        Misses cellFound ∧ (∃ reference, rowFound = .ok reference) ∧ table.columnCount < column)
      ∧ (outcome = .error (table.noItem (XPath.cell row column)) ↔
        Misses cellFound ∧ (∃ reference, rowFound = .ok reference) ∧ column ≤ table.columnCount)
      ∧ (∀ message, outcome = .error (.driver table.root.own.context "find_element" message) ↔
        cellFound = .error (.other message) ∨ Misses cellFound ∧ rowFound = .error (.other message))
      ∧ (∀ locator, outcome ≠ .error (.elementNotFound locator))
      ∧ (column = 0 ∨ table.columnCount < column →
        table.columnValues column ⟨driver, page⟩ run = (.error (table.noColumn column), run)) := by
  have h_refuses : column = 0 ∨ table.columnCount < column →
      table.columnValues column ⟨driver, page⟩ run = (.error (table.noColumn column), run) :=
    fun h_outside => columnValues_refuses h_outside run
  simp only [← and_assoc]
  refine ⟨?_, h_refuses⟩
  rcases cellElement_cases h h_outcome with ⟨cell, h_cell, rfl, h_place⟩ | ⟨message, rfl, rfl⟩
    | ⟨⟨locator, rfl⟩, ⟨⟨locator, rfl⟩, rfl⟩ | ⟨message, rfl, rfl⟩ | ⟨reference, rfl, h_error⟩⟩
  · simp [Misses, h_cell, h_place]
  · simp [Misses, noRow, noColumn, noItem]
  · simp [Misses, noRow, noColumn, noItem]
  · simp [Misses, noRow, noColumn, noItem]
  · by_cases h_behind : table.columnCount < column
    · rw [if_pos h_behind] at h_error
      have h_not : ¬column ≤ table.columnCount := Nat.not_le.mpr h_behind
      simp [Misses, noRow, noColumn, noItem, h_error, h_behind, h_not]
    · rw [if_neg h_behind] at h_error
      have h_in : column ≤ table.columnCount := Nat.not_lt.mp h_behind
      simp [Misses, noRow, noColumn, noItem, h_error, h_in]

end Table

/-- A page that shows a table of one column with one row, which has no cell. -/
def Browser.withBareRow : Browser where
  nodes := [
    ("table", { children := [
      (Table.headerXPath, ["header"]), ("//p-table" ++ XPath.bodyRow 1, ["row"])] }),
    ("header", { attributes := [("innerHTML", titleMarkup)] })]
  document := [("//p-table", ["table"])]

/-- The query for the cell in column 0 of the first row finds nothing, and the one for the row finds
    it. -/
def Table.findsBareRow (table : Table) (run : Run Browser) : Bool :=
  let (cellFound, searched) := table.seek Browser.driver (XPath.cell 1 0) run
  cellFound = .error (.noSuchElement "xpath=\"//p-table//tr[1]/td[0]\"")
    ∧ (table.seek Browser.driver (XPath.bodyRow 1) searched).1 = .ok ⟨"row", 0⟩

/-- In column 0 of the row the cell is said to be missing, as if the table had the column. -/
theorem Table.cellElement_missing_columnZero : ∃ table run reference,
    load "orders" {} "//p-table" ⟨Browser.driver, Page.bare⟩ { world := Browser.withBareRow }
        = (.ok table, run)
      ∧ table.Seeks Browser.driver 1 0 run
        (.error (.noSuchElement "xpath=\"//p-table//tr[1]/td[0]\"")) (.ok reference)
      ∧ (table.cellElement 1 0 ⟨Browser.driver, Page.bare⟩ run).1
        = .error (table.noItem (XPath.cell 1 0))
      ∧ (table.cellElement 1 0 ⟨Browser.driver, Page.bare⟩ run).1 ≠ .error (table.noColumn 0)
      ∧ (table.columnValues 0 ⟨Browser.driver, Page.bare⟩ run).1 = .error (table.noColumn 0) := by
  have h_any : (load "orders" {} "//p-table" ⟨Browser.driver, Page.bare⟩
      { world := Browser.withBareRow }).1.toOption.any (fun table =>
        findsBareRow table (load "orders" {} "//p-table" ⟨Browser.driver, Page.bare⟩
          { world := Browser.withBareRow }).2) = true := by
    decide +kernel
  obtain ⟨table, run, h_load, h_found⟩ := exists_of_any h_any
  rw [h_load] at h_found
  obtain ⟨h_cell, h_row⟩ := of_decide_eq_true h_found
  have h_seeks : table.Seeks Browser.driver 1 0 run _ _ := ⟨h_cell, h_row, nofun, nofun⟩
  have h_outcome : table.cellElement 1 0 ⟨Browser.driver, Page.bare⟩ run = (_, _) := rfl
  obtain ⟨-, -, -, h_column, h_item, -, -, h_refuses⟩ := cellElement_missing h_seeks h_outcome
  refine ⟨table, run, ⟨"row", 0⟩, h_load, h_seeks, ?_, ?_, ?_⟩
  · exact h_item.mpr ⟨⟨_, rfl⟩, ⟨_, rfl⟩, Nat.zero_le _⟩
  · intro h_missing
    exact absurd (h_column.mp h_missing).2.2 (Nat.not_lt_zero _)
  · rw [h_refuses (.inl rfl)]

end PageObjects
