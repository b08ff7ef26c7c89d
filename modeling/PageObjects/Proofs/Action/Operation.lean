/-
  PageObjects.Proofs.Action.Operation

  What a test does. An `Operation` is anything that a test does with a page, with a
  handle or with a table; its action gives what the test may hold from then on.
-/

import PageObjects.Page.Storage
import PageObjects.Page.Table

namespace PageObjects

/-- What a test does with a page. Handles that are reloaded may be put together by the test from
    handles of any pages. -/
inductive PageOperation where
  | visit (pattern : Option String) (params : List (String × String))
  | redirect (url : String)
  | forgetAll
  | focusLastTab
  | focusFirstTab
  | openedUrl
  | checkOpened
  | openedId
  | openedParam (name : String)
  | waitReady
  | waitPageLoader
  | waitTableLoader
  | waitDialog
  | waitModal
  | waitAccessible (binding : Binding) (timeoutMs : Option Nat)
  | waitClickable (binding : Binding) (timeoutMs : Option Nat)
  | deleteCookies (filter key : String)
  | deleteAllCookies
  | deleteLocalStorage (key : Option String)
  | resolve (slot : String)
  | element (slot : String)
  | elementList (slot : String)
  | resolveBinding (binding : Binding) (slot : String)
  | reload (resolved : Resolved)
  | find (locator : Locator)
  | findAll (locator : Locator)
  | findNamed (name : String)
  | groupBinding (slot : String) (indices : List String)
  | groupMember (slot : String) (indices : List String)
  | groupRelative (slot : String) (indices : List String)
  | table (slot : String)
  | nestedTable (slot : String) (index : Nat)

/-- What a test does with a handle. -/
inductive HandleOperation where
  | call (call : ElementCall)
  | isStale
  | find (locator : Locator)
  | findAll (locator : Locator)
  | waitClickable
  | waitVisible
  | click (focusOpenedTab : Bool)
  | clickAndWait (focusOpenedTab : Bool)
  | scrollTo (vertical horizontal : ScrollPosition)

/-- What a test does with a table. -/
inductive TableOperation where
  | root
  | item (xpath : String)
  | items (xpath : String)
  | cellElement (row column : Nat)
  | cell (row column : Nat)
  | rowValues (row : Nat)
  | headerValues (row : Nat)
  | columnValues (column : Nat)
  | valuesOf (column : Column)
  | indexByValue (column : Column) (value : String)
  | rowByValue (column : Column) (value : String)
  | cellsContaining (column : Column) (text : String)
  | columnCell (column : Column) (row : Nat)
  | clickColumn (column : Column)

/-- The handles and tables that a test has got. -/
structure Held where
  handles : List Handle := []
  tables : List Table := []

/-- What is held together with what was got before. -/
def Held.and (got before : Held) : Held :=
  ⟨got.handles ++ before.handles, got.tables ++ before.tables⟩

variable {W α : Type}

-- ============================================================================
-- What operations give
-- ============================================================================

/-- An action of which nothing is held. -/
def givesNothing (action : Action W α) : Action W Held := do
  let _ ← action
  return {}

/-- An action of which the handle is held. -/
def givesHandle (action : Action W Handle) : Action W Held := do
  return { handles := [← action] }

/-- An action of which the handles are held. -/
def givesHandles (action : Action W (List Handle)) : Action W Held := do
  return { handles := ← action }

/-- An action of which the resolved handles are held. -/
def givesResolved (action : Action W Resolved) : Action W Held := do
  return { handles := (← action).toList }

/-- An action of which the table is held. -/
def givesTable (action : Action W Table) : Action W Held := do
  return { tables := [← action] }

/-- What an operation that ended well has given. -/
def gotten : Except PageError Held × Run W → Held
  | (.ok held, _) => held
  | (.error _, _) => {}

-- ============================================================================
-- The actions
-- ============================================================================

/-- The action of an operation on a page. -/
def PageOperation.action : PageOperation → Action W Held
  | visit pattern params => givesNothing (Page.visit pattern params)
  | redirect url => givesNothing (Page.redirect url)
  | forgetAll => givesNothing Action.forgetAll
  | focusLastTab => givesNothing Page.focusLastTab
  | focusFirstTab => givesNothing Page.focusFirstTab
  | openedUrl => givesNothing Page.openedUrl
  | checkOpened => givesNothing Page.checkOpened
  | openedId => givesNothing Page.openedId
  | openedParam name => givesNothing (Page.openedParam name)
  | waitReady => givesNothing Page.waitReady
  | waitPageLoader => givesNothing Page.waitPageLoader
  | waitTableLoader => givesNothing Page.waitTableLoader
  | waitDialog => givesNothing Page.waitDialog
  | waitModal => givesNothing Page.waitModal
  | waitAccessible binding timeoutMs => givesNothing (Page.waitAccessible binding timeoutMs)
  | waitClickable binding timeoutMs => givesNothing (Page.waitClickable binding timeoutMs)
  | deleteCookies filter key => givesNothing (Page.deleteCookies filter key)
  | deleteAllCookies => givesNothing Page.deleteAllCookies
  | deleteLocalStorage key => givesNothing (Page.deleteLocalStorage key)
  | resolve slot => givesResolved (Page.resolve slot)
  | element slot => givesHandle (Page.element slot)
  | elementList slot => givesHandles (Page.elementList slot)
  | resolveBinding binding slot => givesResolved (binding.resolve slot)
  | reload resolved => givesResolved (Page.reload resolved)
  | find locator => givesHandle (Page.find locator)
  | findAll locator => givesHandles (Page.findAll locator)
  | findNamed name => givesHandle (Page.findNamed name)
  | groupBinding slot indices => givesNothing do
    Page.groupBinding (← Page.declared "group" Page.groups slot) indices
  | groupMember slot indices => givesResolved do
    Page.groupMember (← Page.declared "group" Page.groups slot) indices
  | groupRelative slot indices => givesHandle do
    Page.groupRelative (← Page.declared "group" Page.groups slot) indices
  | table slot => givesTable (Page.table slot)
  | nestedTable slot index => givesTable (Page.nestedTable slot index)

/-- The action of an operation on a handle. -/
def HandleOperation.action (handle : Handle) : HandleOperation → Action W Held
  | call request => givesNothing (handle.perform request)
  | isStale => givesNothing handle.isStale
  | find locator => givesHandle (handle.find locator)
  | findAll locator => givesHandles (handle.findAll locator)
  | waitClickable => givesNothing handle.waitClickable
  | waitVisible => givesNothing handle.waitVisible
  | click focusOpenedTab => givesNothing (handle.click focusOpenedTab)
  | clickAndWait focusOpenedTab => givesNothing (handle.clickAndWait focusOpenedTab)
  | scrollTo vertical horizontal => givesNothing (Page.scrollTo handle vertical horizontal)

/-- The action of an operation on a table. -/
def TableOperation.action (table : Table) : TableOperation → Action W Held
  | root => givesHandle (pure table.root)
  | item xpath => givesHandle (table.item xpath)
  | items xpath => givesHandles (table.items xpath)
  | cellElement row column => givesHandle (table.cellElement row column)
  | cell row column => givesNothing (table.cell row column)
  | rowValues row => givesNothing (table.rowValues row)
  | headerValues row => givesNothing (table.headerValues row)
  | columnValues column => givesNothing (table.columnValues column)
  | valuesOf column => givesNothing (table.valuesOf column)
  | indexByValue column value => givesNothing (table.indexByValue column value)
  | rowByValue column value => givesNothing (table.rowByValue column value)
  | cellsContaining column text => givesHandles (table.cellsContaining column text)
  | columnCell column row => givesHandle (table.columnCell column row)
  | clickColumn column => givesNothing (table.clickColumn column)

/-- Anything that a test does. -/
inductive Operation where
  | onPage (operation : PageOperation)
  | onHandle (handle : Handle) (operation : HandleOperation)
  | onTable (table : Table) (operation : TableOperation)
  | waitOneOf (handles : List Handle) (timeoutMs : Option Nat)

namespace Operation

/-- The action of an operation. -/
def action : Operation → Action W Held
  | onPage operation => operation.action
  | onHandle handle operation => operation.action handle
  | onTable table operation => operation.action table
  | waitOneOf handles timeoutMs => givesHandle (Page.waitOneOf handles timeoutMs)

/-- Whether a test that holds `held` can do the operation. -/
def IsOn (held : Held) : Operation → Prop
  | onPage _ => True
  | onHandle handle _ => handle ∈ held.handles
  | onTable table _ => table ∈ held.tables
  | waitOneOf handles _ => ∀ handle ∈ handles, handle ∈ held.handles

end Operation

end PageObjects
