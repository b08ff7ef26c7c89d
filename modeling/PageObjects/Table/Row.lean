/-
  PageObjects.Table.Row

  Rows and cells of a table body, from their own markup. The value of a cell is
  the text before its first child element, without the blanks at its ends; a cell
  that starts with an element has no value.
-/

import PageObjects.Error
import PageObjects.Markup.Document

namespace PageObjects
namespace Table

open Markup (Element)

/-- The first element of a text, which must have the tag `tag`. -/
def expectElement (tag markup : String) : Except PageError Element := do
  let e ← Markup.requireElement markup
  if e.tag = tag then return e
  .error (.unexpectedTag ("It parses only " ++ tag ++ " tag content, got <" ++ e.tag ++ ">"))

/-- The visible value of a cell. -/
def cellValue (cell : Element) : Option String :=
  cell.text.map Text.trim

/-- The values of a row, one for each child element. -/
def parseRow (markup : String) : Except PageError (List (Option String)) :=
  (expectElement "tr" markup).map fun row => row.elements.map cellValue

/-- The value of a cell of a table body. -/
def parseCell (markup : String) : Except PageError (Option String) :=
  (expectElement "td" markup).map cellValue

end Table
end PageObjects
