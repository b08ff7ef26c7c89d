/-
  PageObjects.Page.Memory

  What a page remembers between two navigations: the handles and tables that were
  found for its slots, and the bindings of group members that were asked for. A
  handle knows how it was found, so that it can be found again: its own query and
  the queries of the elements that it was found under.
-/

import PageObjects.Keyed
import PageObjects.Page.Spec

namespace PageObjects

/-- The query that an element was found by. -/
structure Link where
  /-- The number of the handle; no two handles of a run have the same. -/
  id : Nat
  locator : Locator
  /-- The slot that the element was found for. -/
  slot : Option String
  /-- Whether the handle takes the place of its slot in the memory when it is found again. -/
  memoizes : Bool
  /-- The position in the list of matches, if the query was for all of them. -/
  position : Option Nat
deriving DecidableEq, Repr

namespace Link

/-- The name of a handle without a slot in messages. -/
def anonymous : String := "<unbound element>"

/-- The name of the handle in messages. -/
def context (link : Link) : String :=
  link.slot.getD anonymous

end Link

/-- A handle of an element: its own query, and those of the elements around it, the nearest
    first. -/
structure Handle where
  own : Link
  ancestors : List Link
deriving DecidableEq, Repr

/-- What a binding resolves to. -/
inductive Resolved where
  | one (handle : Handle)
  | many (handles : List Handle)
deriving DecidableEq, Repr

namespace Resolved

/-- The handles, in order. -/
def toList : Resolved → List Handle
  | .one handle => [handle]
  | .many handles => handles

/-- The first handle. -/
def head (resolved : Resolved) : Except PageError Handle :=
  match resolved.toList with
  | [] => .error (.elementNotFound "<empty element list>")
  | handle :: _ => .ok handle

end Resolved

/-- A table that was found, with its header. -/
structure Table where
  slot : String
  rootXPath : String
  root : Handle
  header : Header
  columns : List (String × Column)

/-- A value that a page remembers. -/
inductive Cached where
  | elements (resolved : Resolved)
  | table (table : Table)

/-- What a page remembers. -/
structure Memory where
  cache : Keyed String Cached := []
  /-- The bindings of group members, by the names of the members. -/
  members : Keyed String Binding := []

end PageObjects
