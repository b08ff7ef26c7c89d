/-
  PageObjects.XPath

  The xpath expressions that pages and tables search by. Each is a fixed template
  around a tag, an attribute name, a position and at most one search value; the
  value stands between double quotes as one literal.
-/

namespace PageObjects
namespace XPath

/-- A search value as a literal. -/
def literal (value : String) : String :=
  "\"" ++ value ++ "\""

/-- A step to the elements with a tag and an attribute value. -/
def stepWithAttribute (tag attr value : String) : String :=
  tag ++ "[@" ++ attr ++ "=" ++ literal value ++ "]"

/-- All elements of the document with a tag and an attribute value. -/
def withAttribute (tag attr value : String) : String :=
  "//" ++ stepWithAttribute tag attr value

/-- The expression as a search below the current element: an absolute search starts there, and
    anything else is a path from there. -/
def fromParent (xpath : String) : String :=
  match xpath.toList with
  | '/' :: '/' :: rest => ".//" ++ String.ofList rest
  | _ => "./" ++ xpath

/-! ## Parts of tables -/

/-- The body of a table. -/
def body : String := "//tbody"

/-- The header of a table. -/
def head : String := "//thead"

/-- The row with the given position. -/
def row (position : Nat) : String :=
  "//tr[" ++ toString position ++ "]"

/-- The cells with the given position, one from each row that has it. -/
def column (position : Nat) : String :=
  "//tr/td[" ++ toString position ++ "]"

/-- The cell of a row. -/
def cell (rowPosition columnPosition : Nat) : String :=
  row rowPosition ++ "/td[" ++ toString columnPosition ++ "]"

/-- The cells of a column whose text contains `text`. -/
def cellsContaining (position : Nat) (text : String) : String :=
  "//tr/td[contains(string()," ++ literal text ++ ") and position()=" ++ toString position ++ "]"

/-- The row of the table body with the given position. -/
def bodyRow (position : Nat) : String :=
  body ++ row position

/-- The row of the table header with the given position. -/
def headRow (position : Nat) : String :=
  head ++ row position

/-- The elements with a tag whose text contains `text`. -/
def withText (tag text : String) : String :=
  "//" ++ tag ++ "[contains(text()," ++ literal text ++ ")]"

end XPath
end PageObjects
