/-
  PageObjects.Browser.Call

  The calls that a test makes to a browser: to the provider of sessions, to the
  session, and to an element through a reference to it. Every call says which type
  its answer has, so that a browser is one function on calls, and has one text,
  `Call.display`.
-/

import PageObjects.Json.Printer
import PageObjects.Locator.Basic

namespace PageObjects

/-- A reference to an element: its node, and the rendering of the page that it was taken in. -/
structure Reference where
  node : String
  rendering : Nat
deriving DecidableEq, Repr, Inhabited

/-- A cookie, by its fields. -/
abbrev Cookie := List (Option String × Json)

namespace Cookie

/-- The value of a field. -/
def field? (cookie : Cookie) (name : String) : Option Json :=
  (Json.object cookie).member? name

/-- The name of a cookie, if it is a text. -/
def name? (cookie : Cookie) : Option String :=
  (cookie.field? "name").bind Json.text?

end Cookie

/-- An argument of a script. -/
inductive ScriptArgument where
  | value (json : Json)
  | element (reference : Reference)
deriving Repr

/-- The argument as a JSON value. -/
def ScriptArgument.toJson : ScriptArgument → Json
  | .value json => .ofMembers [("value", json.sorted)]
  | .element reference => .ofMembers [("element", .ofString reference.node)]

/-- A call to the provider of sessions. -/
inductive ProviderCall where
  /-- Asks for the session; a fresh one has no cookies. -/
  | session (fresh : Bool)
  | quit
deriving Repr

/-- A call to the session. -/
inductive SessionCall where
  | navigate (url : String)
  | currentUrl
  | executeScript (script : String) (arguments : List ScriptArgument)
  | cookies
  | deleteCookie (name : String)
  | deleteAllCookies
  | find (locator : Locator)
  | findAll (locator : Locator)
  | windowHandles
  | switchToWindow (handle : String)
  | closeWindow
  | browserLog (kind : String)
deriving Repr

/-- A call to an element. -/
inductive ElementCall where
  | tagName
  | text
  | attribute (name : String)
  | click
  | sendKeys (keys : String)
  | clear
  | isDisplayed
  | isEnabled
  | isSelected
  | find (locator : Locator)
  | findAll (locator : Locator)
  | isStale
deriving DecidableEq, Repr

/-- A call to a browser. -/
inductive Call where
  | provider (call : ProviderCall)
  | session (call : SessionCall)
  | element (reference : Reference) (call : ElementCall)
deriving Repr

/-! ## Answers -/

/-- The type of the answer to a call to the session. -/
@[reducible] def SessionCall.Answer : SessionCall → Type
  | .currentUrl => String
  | .executeScript _ _ => Json
  | .cookies => List Cookie
  | .find _ => Reference
  | .findAll _ => List Reference
  | .windowHandles => List String
  | .browserLog _ => List Json
  | .navigate _ | .deleteCookie _ | .deleteAllCookies | .switchToWindow _ | .closeWindow => Unit

/-- The type of the answer to a call to an element. -/
@[reducible] def ElementCall.Answer : ElementCall → Type
  | .tagName | .text => String
  | .attribute _ => Option String
  | .isDisplayed | .isEnabled | .isSelected | .isStale => Bool
  | .find _ => Reference
  | .findAll _ => List Reference
  | .click | .sendKeys _ | .clear => Unit

/-- The type of the answer to a call. -/
@[reducible] def Call.Answer : Call → Type
  | .provider _ => Unit
  | .session call => call.Answer
  | .element _ call => call.Answer

/-! ## Texts -/

/-- The text of a call to the provider. -/
def ProviderCall.display : ProviderCall → String
  | .session fresh => "session " ++ (if fresh then "true" else "false")
  | .quit => "quit"

/-- The text of a call to the session. -/
def SessionCall.display : SessionCall → String
  | .navigate url => "navigate " ++ url
  | .currentUrl => "current_url"
  | .executeScript script arguments =>
    "execute_script " ++ script ++ " " ++ (Json.ofList ScriptArgument.toJson arguments).render
  | .cookies => "cookies"
  | .deleteCookie name => "delete_cookie " ++ name
  | .deleteAllCookies => "delete_all_cookies"
  | .find locator => "find_element " ++ locator.display
  | .findAll locator => "find_elements " ++ locator.display
  | .windowHandles => "window_handles"
  | .switchToWindow handle => "switch_to_window " ++ handle
  | .closeWindow => "close_window"
  | .browserLog kind => "browser_log " ++ kind

/-- The name of the operation that a call to an element carries out. -/
def ElementCall.operation : ElementCall → String
  | .tagName => "tag_name"
  | .text => "text"
  | .attribute _ => "attribute"
  | .click => "click"
  | .sendKeys _ => "send_keys"
  | .clear => "clear"
  | .isDisplayed => "is_displayed"
  | .isEnabled => "is_enabled"
  | .isSelected => "is_selected"
  | .find _ => "find_element"
  | .findAll _ => "find_elements"
  | .isStale => "is_stale"

/-- The text of a call to an element: the operation and what it is given. -/
def ElementCall.display (call : ElementCall) : String :=
  match call with
  | .attribute name => call.operation ++ " " ++ name
  | .sendKeys keys => call.operation ++ " " ++ keys
  | .find locator | .findAll locator => call.operation ++ " " ++ locator.display
  | _ => call.operation

/-- The text of a call. -/
def Call.display : Call → String
  | .provider call => call.display
  | .session call => call.display
  | .element reference call => reference.node ++ "." ++ call.display

end PageObjects
