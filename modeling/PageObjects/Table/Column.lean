/-
  PageObjects.Table.Column

  Columns and tables as they are declared. A column is known by the visible text
  of its header cell or by one of its attributes; a table by its tag and, where
  there are several, by a value of the attribute that names tables.
-/

import PageObjects.Error
import PageObjects.Settings.Basic
import PageObjects.Table.Header
import PageObjects.XPath

namespace PageObjects

/-- How the header cell of a column is recognised. -/
inductive ColumnSearch where
  | visibleName
  | byAttribute (name value : String)
deriving DecidableEq, Repr

/-- A declared column. -/
structure Column where
  visibleName : String
  search : ColumnSearch
deriving DecidableEq, Repr

namespace Column

/-- The column with the given visible text. -/
def named (visibleName : String) : Column :=
  ⟨visibleName, .visibleName⟩

/-- The column whose header cell has an attribute value, for texts that are not unique. -/
def byAttribute (visibleName name value : String) : Except PageError Column :=
  if name.isEmpty || value.isEmpty then
    .error (.table "attribute name and value must both be set to search a column by attribute")
  else .ok ⟨visibleName, .byAttribute name value⟩

/-- The xpath of the header cell below the table. -/
def relativeXPath (column : Column) : String :=
  match column.search with
  | .visibleName => XPath.withText Header.cellTag column.visibleName
  | .byAttribute name value => XPath.withAttribute Header.cellTag name value

/-- The text by which messages name a column. -/
def display (column : Column) : String :=
  "Column(" ++ column.relativeXPath ++ ")"

/-- The attribute that the header index has to follow for this column. -/
def trackedAttribute? (column : Column) : Option String :=
  match column.search with
  | .visibleName => none
  | .byAttribute name _ => some name

end Column

/-- A declared table. -/
structure TableSpec where
  /-- The value by which the table is recognised; empty is the same as none. -/
  searchValue : Option String := none
  /-- The attribute with that value, if it is not the one for tables. -/
  searchAttribute : Option String := none
  tag : Option String := none
  columns : List (String × Column) := []
deriving DecidableEq, Repr

namespace TableSpec

/-- The xpath of the table. -/
def rootXPath (spec : TableSpec) (settings : Settings) : String :=
  let tag := spec.tag.getD settings.defaultTableTag
  match spec.searchValue.filter fun value => !value.isEmpty with
  | some value =>
    XPath.withAttribute tag (spec.searchAttribute.getD settings.tableAttribute) value
  | none => "//" ++ tag

/-- The attributes that the header index has to follow. -/
def trackedAttributes (spec : TableSpec) : List String :=
  spec.columns.filterMap fun (_, column) => column.trackedAttribute?

end TableSpec

/-- Tables inside the rows of another table, told apart by an index behind a common name. -/
structure NestedSpec where
  /-- The slot of the table around them. -/
  parent : String
  baseName : String
  spec : TableSpec
deriving DecidableEq, Repr

namespace NestedSpec

/-- The xpath of the nested table `index`, from the row that contains it. -/
def rootXPath (nested : NestedSpec) (parentRoot : String) (index : Nat) (settings : Settings) :
    String :=
  let own := XPath.stepWithAttribute (nested.spec.tag.getD settings.nestedTableTag)
    (nested.spec.searchAttribute.getD settings.tableAttribute) (nested.baseName ++ toString index)
  parentRoot ++ XPath.body ++ "//tr[.//" ++ own ++ "]//" ++ own

end NestedSpec

end PageObjects
