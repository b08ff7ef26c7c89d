/-
  PageObjects.Group

  Groups of elements whose names differ only by indices, such as `row_1_edit`,
  `row_2_edit`. A group has one part for each index; the name of a member joins
  every part with its index and, last, a part of its own.
-/

import PageObjects.Locator.Basic
import PageObjects.Settings.Basic

namespace PageObjects

/-- Whether a lookup asks for the first match or for all of them. -/
inductive Cardinality where
  | one
  | many
deriving DecidableEq, Repr

/-- A group of elements told apart by indices. -/
structure ElementGroup where
  /-- The constant part before each index; it may be empty. -/
  parts : List String
  /-- The constant part behind the last index. -/
  endPart : Option String
  cardinality : Cardinality
  /-- The attribute that carries the names, if it is not the one for elements. -/
  attributeName : Option String
deriving DecidableEq, Repr

namespace ElementGroup

/-- A part without the separators at its ends. -/
def trimPart (part : String) : String :=
  let isSeparator (c : Char) : Bool := c == '_'
  String.ofList (((part.toList.dropWhile isSeparator).reverse.dropWhile isSeparator).reverse)

/-- The group with the given parts. -/
def ofParts (parts : List String) (endPart : Option String) (cardinality : Cardinality)
    (attributeName : Option String) : ElementGroup :=
  { parts := parts.map trimPart
    endPart := (endPart.map trimPart).filter fun part => !part.isEmpty
    cardinality
    attributeName }

/-- The number of indices that a name needs. -/
def arity (group : ElementGroup) : Nat :=
  group.parts.length

/-- One part of a name with its index. -/
def piece (part index : String) : String :=
  if part.isEmpty then index else part ++ "_" ++ index

/-- The name of the member with the given indices. -/
def name (group : ElementGroup) (indices : List String) : Except PageError String :=
  if indices.length = group.arity then
    .ok ("_".intercalate (List.zipWith piece group.parts indices ++ group.endPart.toList))
  else
    .error (.config ("Group needs " ++ toString group.arity ++ " indices but got "
      ++ toString indices.length))

/-- The locator of the member with the given name. -/
def locator (group : ElementGroup) (settings : Settings) (name : String) : Locator :=
  .byAttribute (group.attributeName.getD settings.dataAttribute) name

end ElementGroup

end PageObjects
