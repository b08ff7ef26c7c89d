/-
  PageObjects.Error

  What can go wrong: faults of the browser driver, and the errors of pages,
  elements and components. Each has one text, `Fault.text` and `PageError.text`.

    * `PageError.ofFault` turns a driver fault into an error of the element or page
      that met it.
    * `isNotFound` and `isTableMiss` are the errors that say that something is not
      there, which waits and table look-ups treat apart from real failures.
-/

import PageObjects.Url.Fault

namespace PageObjects

/-- A fault reported by the browser driver. -/
inductive Fault where
  | stale
  | noSuchElement (locator : String)
  | other (message : String)
deriving DecidableEq, Repr

/-- The text of a fault. -/
def Fault.text : Fault → String
  | .stale => "stale element reference"
  | .noSuchElement locator => "no such element: " ++ locator
  | .other message => message

/-- An error of a page, an element or a component. -/
inductive PageError where
  /-- A declaration or the settings are wrong. -/
  | config (message : String)
  /-- The browser shows none of the page's addresses. -/
  | pageNotOpened (message : String)
  /-- The page cannot do what is asked. -/
  | page (message : String)
  /-- Nothing matches a locator. -/
  | elementNotFound (locator : String)
  /-- A reference went stale, and again after its recovery. -/
  | staleElement (context : String)
  /-- Any other driver fault, with the operation that met it. -/
  | driver (context operation message : String)
  /-- A wait came to its end in vain. -/
  | timeout (ms : Nat) (waitedFor : String)
  /-- A table is used wrongly. -/
  | table (message : String)
  | tableElementNotFound (message : String)
  | tableRowNotFound (message : String)
  | tableColumnNotFound (message : String)
  /-- Markup does not have the expected form. -/
  | markup (message : String)
  /-- An element has a tag that is not expected. -/
  | unexpectedTag (message : String)
  | select (message : String)
  | datePicker (message : String)
  | confirmDialog (message : String)
  | tabSet (message : String)
  | toast (message : String)
  | editor (message : String)
  | inputMask (message : String)
  /-- A text is no address. -/
  | url (fault : UrlFault)
  /-- A file cannot be read. -/
  | file
  /-- A text is no JSON of the expected form. -/
  | json
  /-- A text is no YAML of the expected form. -/
  | yaml
deriving DecidableEq, Repr

namespace PageError

/-- The text of an error. The errors of files and formats have no text of their own. -/
def text : PageError → String
  | .config message => "Configuration error: " ++ message
  | .pageNotOpened message => "Page not opened: " ++ message
  | .page message => "Page error: " ++ message
  | .elementNotFound locator => "Element not found by " ++ locator
  | .staleElement context => "Stale element reference at " ++ context
  | .driver context operation message =>
    "Driver error during " ++ operation ++ " at " ++ context ++ ": " ++ message
  | .timeout ms waitedFor =>
    "Timed out after " ++ toString ms ++ "ms waiting for " ++ waitedFor
  | .table message => "Table error: " ++ message
  | .tableElementNotFound message => "Table element not found: " ++ message
  | .tableRowNotFound message => "Table row not found: " ++ message
  | .tableColumnNotFound message => "Table column not found: " ++ message
  | .markup message => "Markup error: " ++ message
  | .unexpectedTag message => "Unexpected tag: " ++ message
  | .select message => "Select error: " ++ message
  | .datePicker message => "Date picker error: " ++ message
  | .confirmDialog message => "Confirm dialog error: " ++ message
  | .tabSet message => "Tab set error: " ++ message
  | .toast message => "Toast error: " ++ message
  | .editor message => "CKEditor error: " ++ message
  | .inputMask message => "Input mask error: " ++ message
  | .url fault => "URL error: " ++ fault.text
  | .file => ""
  | .json => ""
  | .yaml => ""

/-- The error of an operation on `context` that met a driver fault. -/
def ofFault (fault : Fault) (context operation : String) : PageError :=
  match fault with
  | .noSuchElement locator => .elementNotFound locator
  | .stale => .staleElement context
  | .other message => .driver context operation message

/-- Whether the error says that an element is not there. -/
def isNotFound : PageError → Bool
  | .elementNotFound _ => true
  | .tableElementNotFound _ => true
  | _ => false

/-- Whether the error says that a row, a column or an element of a table is not there. -/
def isTableMiss : PageError → Bool
  | .tableElementNotFound _ => true
  | .tableRowNotFound _ => true
  | .tableColumnNotFound _ => true
  | _ => false

end PageError

end PageObjects
