/-
  PageObjects.Json.Record

  Records with named fields, read from JSON. An object gives each field at most
  once, in any order, beside members of other names, which are ignored; an array
  gives the fields in their order and may stop early. `Fields` is what was given;
  what a missing field means is up to the record.
-/

import PageObjects.Json.Basic

namespace PageObjects

/-- The values given for the fields of a record, each field at most once. -/
abbrev Fields (α : Type) := List (String × α)

/-- The members with a known name, if none of them is repeated. -/
def Fields.ofMembers? {α : Type} (known : List String) : List (String × α) → Option (Fields α)
  | [] => some []
  | (name, value) :: rest => do
    let fields ← Fields.ofMembers? known rest
    if known.contains name then
      if (fields.lookup name).isSome then none else some ((name, value) :: fields)
    else some fields

/-- The items under the names of the fields in their order, if there are not too many items. -/
def Fields.ofItems? {α : Type} (known : List String) (items : List α) : Option (Fields α) :=
  if items.length ≤ known.length then some (known.zip items) else none

namespace Json

/-- The members of an object whose names all have a text. -/
def namedMembers? : List (Option String × Json) → Option (List (String × Json))
  | [] => some []
  | (name, value) :: rest => do
    let name ← name
    let members ← namedMembers? rest
    some ((name, value) :: members)

/-- The fields of a record with the field names `known`. -/
def fields? (known : List String) : Json → Option (Fields Json)
  | .object members => (namedMembers? members).bind (Fields.ofMembers? known)
  | .array items => Fields.ofItems? known items
  | _ => none

/-- A field that must be text and has a default. -/
def textField? (fields : Fields Json) (name default : String) : Option String :=
  match fields.lookup name with
  | none => some default
  | some value => value.text?

/-- A field that is text or null, and null if it is missing. -/
def optionalTextField? (fields : Fields Json) (name : String) : Option (Option String) :=
  match fields.lookup name with
  | none => some none
  | some .null => some none
  | some value => value.text?.map some

/-- A field that must be a truth value and has a default. -/
def boolField? (fields : Fields Json) (name : String) (default : Bool) : Option Bool :=
  match fields.lookup name with
  | none => some default
  | some value => value.bool?

/-- A field that must be an unsigned number of 64 bits and has a default. -/
def wordField? (fields : Fields Json) (name : String) (default : Nat) : Option Nat :=
  match fields.lookup name with
  | none => some default
  | some value => value.natural?.filter (· < Text.wordSize 64)

end Json

end PageObjects
