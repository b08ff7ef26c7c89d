/-
  PageObjects.Json.Basic

  JSON values. Objects keep their members in the order written, repeated names
  included, and numbers keep their spelling: what a repeated name or a number
  means is up to the reader of the value. The escapes of a string may spell half
  of a surrogate pair; such a string is a value but has no text.
-/

import PageObjects.Text.Numeral

namespace PageObjects

/-- A JSON value. The text of a string is `none` if its escapes are no Unicode text. -/
inductive Json where
  | null
  | bool (b : Bool)
  | number (literal : String)
  | string (text : Option String)
  | array (items : List Json)
  | object (members : List (Option String × Json))
deriving Repr, Inhabited

namespace Json

/-- A string value. -/
def ofString (s : String) : Json :=
  .string (some s)

/-- A whole number. -/
def ofInt (n : Int) : Json :=
  .number (toString n)

/-- A count. -/
def ofNat (n : Nat) : Json :=
  .number (toString n)

/-- A value that may be missing. -/
def ofOption {α : Type} (f : α → Json) : Option α → Json
  | none => .null
  | some a => f a

/-- A list of values. -/
def ofList {α : Type} (f : α → Json) (items : List α) : Json :=
  .array (items.map f)

/-- An object with the given members. -/
def ofMembers (members : List (String × Json)) : Json :=
  .object (members.map fun (name, value) => (some name, value))

/-- The text, if the value is a string that has one. -/
def text? : Json → Option String
  | .string text => text
  | _ => none

/-- The truth value, if the value is one. -/
def bool? : Json → Option Bool
  | .bool b => some b
  | _ => none

/-- The items, if the value is an array. -/
def items? : Json → Option (List Json)
  | .array items => some items
  | _ => none

/-- The number, if the value is a natural number written without sign, fraction and exponent. -/
def natural? : Json → Option Nat
  | .number literal => Text.digitsNat? 10 literal.toList
  | _ => none

/-- The number, if the value is a whole number written without fraction and exponent. -/
def integer? : Json → Option Int
  | .number literal => Text.integer? literal.toList
  | _ => none

/-- The value of the member `name` of an object; of a repeated name the last. -/
def member? (name : String) : Json → Option Json
  | .object members => members.reverse.lookup (some name)
  | _ => none

end Json

end PageObjects
