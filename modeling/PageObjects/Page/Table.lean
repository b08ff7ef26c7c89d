/-
  PageObjects.Page.Table

  Tables on a page. A table is found by the xpath of its root, and its header is
  read once; cells, rows and columns are then addressed by position below the root,
  and columns also by their declaration. A position that is not there is told apart
  from a fault of the browser.
-/

import PageObjects.Page.Slot
import PageObjects.Table.Row

namespace PageObjects

variable {W : Type}

namespace Table

/-! ## Finding a table -/

/-- The xpath of the header, from the root of the table. -/
def headerXPath : String := "." ++ XPath.head

/-- Finds a table and reads its header. -/
def load (slot : String) (spec : TableSpec) (rootXPath : String) : Action W Table := do
  let locator := Locator.xpath rootXPath
  let reference ← Action.sessionCall (.find locator) slot "find_table"
  let root ← Handle.register locator (some slot) false none [] reference
  let markup ← (← root.find (.xpath headerXPath)).innerHtml
  let header ← Header.parse markup Header.defaultTextKey spec.trackedAttributes
  return { slot, rootXPath, root, header, columns := spec.columns }

/-- The number of genuine columns. -/
def columnCount (table : Table) : Nat :=
  table.header.columnCount

/-! ## Items below the root -/

/-- The first element at an xpath below the root. -/
def item (table : Table) (xpath : String) : Action W Handle := do
  let path := table.rootXPath ++ xpath
  tryCatch (table.root.find (.xpath path)) fun
    | .elementNotFound _ =>
      throw (.tableElementNotFound ("Element not found by xpath value: " ++ Text.quoted path))
    | e => throw e

/-- All elements at an xpath below the root. -/
def items (table : Table) (xpath : String) : Action W (List Handle) :=
  table.root.findAll (.xpath (table.rootXPath ++ xpath))

/-- The error for a row that is not there. -/
def noRow (table : Table) (row : Nat) : PageError :=
  .tableRowNotFound ("Row with index " ++ toString row ++ " not found in table " ++ table.slot)

/-- The error for a column that is not there. -/
def noColumn (table : Table) (column : Nat) : PageError :=
  .tableColumnNotFound
    ("Column with index " ++ toString column ++ " not exists in table " ++ table.slot)

/-- Says what is missing where the cell of a row and a column was not found. -/
def explainMiss (table : Table) (row column : Nat) (miss : PageError) : Action W Handle := do
  let _ ← Action.orMiss (table.noRow row) (table.item (XPath.bodyRow row))
  throw (if table.columnCount < column then table.noColumn column else miss)

/-- The cell of a row and a column. -/
def cellElement (table : Table) (row column : Nat) : Action W Handle :=
  tryCatch (table.item (XPath.cell row column)) fun e =>
    if e.isNotFound then table.explainMiss row column e else throw e

/-- The visible value of a cell. -/
def cell (table : Table) (row column : Nat) : Action W (Option String) := do
  parseCell (← (← table.cellElement row column).outerHtml)

/-- The values of the row at an xpath below the root. -/
def valuesAt (table : Table) (xpath : String) (row : Nat) : Action W (List (Option String)) := do
  let element ← Action.orMiss (table.noRow row) (table.item xpath)
  parseRow (← element.outerHtml)

/-- The values of a row of the body. -/
def rowValues (table : Table) (row : Nat) : Action W (List (Option String)) :=
  table.valuesAt (XPath.bodyRow row) row

/-- The values of a row of the header. -/
def headerValues (table : Table) (row : Nat) : Action W (List (Option String)) :=
  table.valuesAt (XPath.headRow row) row

/-- The values of some cells, in order. -/
def cellValues : List Handle → Action W (List (Option String))
  | [] => return []
  | cell :: rest => do
    let value ← parseCell (← cell.outerHtml)
    return value :: (← cellValues rest)

/-- The values of a column, from top to bottom. -/
def columnValues (table : Table) (column : Nat) : Action W (List (Option String)) := do
  if column = 0 ∨ table.columnCount < column then throw (table.noColumn column)
  cellValues (← table.items (XPath.column column))

/-! ## Columns by declaration -/

/-- The declared column with a name. -/
def column (table : Table) (name : String) : Except PageError Column :=
  match table.columns.lookup name with
  | some column => .ok column
  | none => .error (.table ("Table " ++ table.slot ++ " has no column " ++ Text.quoted name))

/-- The position of a column. -/
def columnIndex (table : Table) (column : Column) : Except PageError Nat :=
  match column.search with
  | .byAttribute name value =>
    match table.header.position? name value with
    | some position => .ok position
    | none =>
      .error (.tableColumnNotFound (column.display ++ " not found in table " ++ table.slot))
  | .visibleName =>
    match table.header.byText? column.visibleName with
    | some position => .ok position
    | none =>
      .error (.table ("Cannot find index of " ++ column.display ++ " in table " ++ table.slot))

/-- The values of a declared column. -/
def valuesOf (table : Table) (column : Column) : Action W (List (Option String)) := do
  table.columnValues (← table.columnIndex column)

/-- The position in a column of the first cell with a value. -/
def indexByValue (table : Table) (column : Column) (value : String) : Action W Nat := do
  match (← table.valuesOf column).idxOf? (some value) with
  | some index => return index + 1
  | none => throw (.tableElementNotFound
      ("Cell with value " ++ Text.quoted value ++ " doesn't exist in " ++ column.display))

/-- The values of the row at the position that a value has in a column. -/
def rowByValue (table : Table) (column : Column) (value : String) :
    Action W (List (Option String)) := do
  table.rowValues (← table.indexByValue column value)

/-- The cells of a column whose text contains `text`. -/
def cellsContaining (table : Table) (column : Column) (text : String) : Action W (List Handle) := do
  table.items (XPath.cellsContaining (← table.columnIndex column) text)

/-- The cell of a column in a row. -/
def columnCell (table : Table) (column : Column) (row : Nat) : Action W Handle := do
  if row < 1 then throw (.table "Column item index must be >= 1")
  table.item (XPath.cell row (← table.columnIndex column))

/-- Clicks the header cell of a column and waits until the loading indicators are gone. -/
def clickColumn (table : Table) (column : Column) : Action W Unit := do
  (← table.item column.relativeXPath).clickAndWait

end Table

namespace Page

/-- The table that is remembered under a key. -/
def cachedTable? (key : String) : Action W (Option Table) := do
  return match ← Action.cached? key with
    | some (.table table) => some table
    | _ => none

/-- The table that is remembered under a key, else the one that is loaded and then remembered. -/
def rememberedTable (key : String) (load : Action W Table) : Action W Table := do
  checkOpened
  match ← cachedTable? key with
  | some table => return table
  | none =>
    let table ← load
    Action.remember key (.table table)
    return table

/-- The table of a slot. -/
def table (slot : String) : Action W Table :=
  rememberedTable slot do
    let spec ← declared "table" Page.tables slot
    Table.load slot spec (spec.rootXPath (← read).page.settings)

/-- The nested table of a slot with an index. -/
def nestedTable (slot : String) (index : Nat) : Action W Table :=
  let key := slot ++ "[" ++ toString index ++ "]"
  rememberedTable key do
    let nested ← declared "nested tables" Page.nested slot
    let page := (← read).page
    match page.tables.find? nested.parent with
    | none => throw (.config ("Unknown parent table " ++ Text.quoted nested.parent))
    | some parent =>
      let root := parent.rootXPath page.settings
      Table.load key nested.spec (nested.rootXPath root index page.settings)

end Page
end PageObjects
