/-
  PageObjects.Table.Header

  The columns of a table as its header names them. A header cell that spans
  several columns is a label over a group of columns and has no position; the
  other cells, the genuine ones, are numbered from 1 in document order.

    * `Header.parse` reads the inner markup of a header.
    * `Header.position?` looks a column up by a key and a value, where the key is
      an attribute name or the key that stands for the visible text.
-/

import PageObjects.Error
import PageObjects.Markup.Forest
import PageObjects.Text.Quoted

namespace PageObjects

/-- One entry of a header index. -/
structure HeaderEntry where
  key : String
  value : String
  position : Nat
deriving DecidableEq, Repr

/-- Whether the entry stands under this key and value. -/
def HeaderEntry.isAt (e : HeaderEntry) (key value : String) : Bool :=
  e.key == key && e.value == value

/-- Column positions by key and value; no two entries agree in both. -/
structure Header where
  /-- The key that stands for the visible text. -/
  textKey : String
  entries : List HeaderEntry
deriving Repr

/-- Why a header cannot be read. -/
inductive HeaderFault where
  | noRows
  | invalidSpan (span : String)
  | duplicateText (text : String)
deriving DecidableEq, Repr

/-- The text of a header fault. -/
def HeaderFault.text : HeaderFault → String
  | .noRows => "Table format could be changed: no header rows"
  | .invalidSpan span => "Invalid colspan=" ++ Text.quoted span ++ " in header of table"
  | .duplicateText text => "Duplicate value=" ++ text ++ " of th.text in header of table"

namespace Header

open Markup (Node Element)

/-- The tag of a header cell. -/
def cellTag : String := "th"

/-- The key under which the visible text of columns is looked up. -/
def defaultTextKey : String := "text"

/-! ## The index -/

/-- The position of the column with `value` under `key`. -/
def position? (header : Header) (key value : String) : Option Nat :=
  (header.entries.find? fun e => e.isAt key value).map (·.position)

/-- The position of the column with the visible text `text`. -/
def byText? (header : Header) (text : String) : Option Nat :=
  header.position? header.textKey text

/-- The values known under `key`, with their positions. -/
def values (header : Header) (key : String) : List (String × Nat) :=
  (header.entries.filter fun e => e.key == key).map fun e => (e.value, e.position)

/-- The keys under which some value is known. -/
def keys (header : Header) : List String :=
  (header.entries.map (·.key)).eraseDups

/-- The number of values known under the text key. -/
def columnCount (header : Header) : Nat :=
  (header.values header.textKey).length

/-- Puts a value under a key, instead of an earlier position of it. -/
def insert (key value : String) (position : Nat) (header : Header) : Header :=
  { header with
    entries := ⟨key, value, position⟩ :: header.entries.filter fun e => !e.isAt key value }

/-! ## Reading -/

/-- The visible text of a header cell: the text at its head, without blanks at its ends and
    without line breaks. -/
def visibleText (text : Option String) : String :=
  String.ofList ((Text.trimBlanks (text.getD "").toList).filter (· != '\n'))

/-- The rows of a header: at the top level, or in a container of the kind `div` there. -/
def rows (nodes : List Node) : List Element :=
  nodes.flatMap fun node =>
    match node.element? with
    | none => []
    | some e =>
      if e.tag = "tr" then [e]
      else if e.tag = "div" then e.elements.filter (·.tag == "tr")
      else []

/-- Whether a cell is a label over several columns. -/
def isGroupLabel (cell : Element) : Except HeaderFault Bool :=
  match cell.attribute? "colspan" with
  | none => .ok false
  | some span =>
    match Text.naturalBelow? 32 (Text.trimBlanks span.toList) with
    | some n => .ok (1 < n)
    | none => .error (.invalidSpan span)

/-- Puts the tracked attributes of a cell under their names; an empty value is no value. -/
def insertAttributes (tracked : List String) (position : Nat) :
    List Markup.Attribute → Header → Header
  | [], header => header
  | (name, value) :: rest, header =>
    insertAttributes tracked position rest
      (if value ≠ "" && tracked.contains name then header.insert name value position else header)

/-- Indexes the cells that are left, the next genuine one at `position`. -/
def indexCells (tracked : List String) (position : Nat) (header : Header) :
    List Element → Except HeaderFault Header
  | [] => .ok header
  | cell :: rest => do
    if cell.tag ≠ cellTag then indexCells tracked position header rest
    else if ← isGroupLabel cell then indexCells tracked position header rest
    else
      let text := visibleText cell.text
      if (header.byText? text).isSome then .error (.duplicateText text)
      else
        let header := header.insert header.textKey text position
        indexCells tracked (position + 1) (insertAttributes tracked position cell.attributes header)
          rest

/-- The index of the header rows in `nodes`. -/
def ofNodes (textKey : String) (tracked : List String) (nodes : List Node) :
    Except HeaderFault Header :=
  match rows nodes with
  | [] => .error .noRows
  | rows => indexCells tracked 1 ⟨textKey, []⟩ (rows.flatMap (·.elements))

/-- The index of a header, from its inner markup. -/
def parse (markup textKey : String) (tracked : List String) : Except PageError Header :=
  (ofNodes textKey tracked (Markup.parse markup)).mapError fun fault => .markup fault.text

end Header

end PageObjects
