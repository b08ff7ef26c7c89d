/-
  PageObjects.Json.Printer

  The compact text of a JSON value: no blanks, control characters and the two
  delimiters of strings escaped, everything else as it is. `sorted` puts the members
  of every object into the order of their names, one member for each name.
-/

import PageObjects.Json.Basic

namespace PageObjects
namespace Json

/-- One character inside a string. -/
def escapeChar (c : Char) : List Char :=
  if c = '"' then ['\\', '"']
  else if c = '\\' then ['\\', '\\']
  else if c = '\n' then ['\\', 'n']
  else if c = '\r' then ['\\', 'r']
  else if c = '\t' then ['\\', 't']
  else if c = '\x08' then ['\\', 'b']
  else if c = '\x0c' then ['\\', 'f']
  else if c.toNat < 32 then
    ['\\', 'u', '0', '0', Nat.digitChar (c.toNat / 16), Nat.digitChar (c.toNat % 16)]
  else [c]

/-- A text as a JSON string. -/
def renderText (s : String) : String :=
  String.ofList ('"' :: (s.toList.flatMap escapeChar ++ ['"']))

mutual

/-- The compact text of a value. -/
def render : Json → String
  | .null => "null"
  | .bool true => "true"
  | .bool false => "false"
  | .number literal => literal
  | .string text => renderText (text.getD "")
  | .array items => "[" ++ renderItems items ++ "]"
  | .object members => "\x7b" ++ renderMembers members ++ "\x7d"

/-- The items of an array, with commas between them. -/
def renderItems : List Json → String
  | [] => ""
  | [item] => render item
  | item :: rest => render item ++ "," ++ renderItems rest

/-- The members of an object, with commas between them. -/
def renderMembers : List (Option String × Json) → String
  | [] => ""
  | [member] => renderMember member
  | member :: rest => renderMember member ++ "," ++ renderMembers rest

/-- A name and its value. -/
def renderMember : Option String × Json → String
  | (name, value) => renderText (name.getD "") ++ ":" ++ render value

end

/-! ## Sorted members -/

/-- Puts a member in its place by name, instead of an earlier one of that name. -/
def insertMember (name : Option String) (value : Json) :
    List (Option String × Json) → List (Option String × Json)
  | [] => [(name, value)]
  | (other, old) :: rest =>
    if other == name then (name, value) :: rest
    else if name.getD "" < other.getD "" then (name, value) :: (other, old) :: rest
    else (other, old) :: insertMember name value rest

mutual

/-- The value with the members of its objects sorted by name; the last of a repeated name stays. -/
def sorted : Json → Json
  | .array items => .array (sortedItems items)
  | .object members => .object (sortedMembers [] members)
  | value => value

/-- `sorted` for every item. -/
def sortedItems : List Json → List Json
  | [] => []
  | item :: rest => sorted item :: sortedItems rest

/-- Inserts the members into a sorted list. -/
def sortedMembers (done : List (Option String × Json)) :
    List (Option String × Json) → List (Option String × Json)
  | [] => done
  | member :: rest => sortedMembers (insertSorted done member) rest

/-- Inserts one member, its value sorted, into a sorted list. -/
def insertSorted (done : List (Option String × Json)) :
    Option String × Json → List (Option String × Json)
  | (name, value) => insertMember name (sorted value) done

end

end Json
end PageObjects
