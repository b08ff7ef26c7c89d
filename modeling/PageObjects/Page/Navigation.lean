/-
  PageObjects.Page.Navigation

  Opening a page, and telling whether it is open. A page is opened at its own
  address, or at the first of its valid addresses that contains a given pattern; it
  counts as open while the browser shows an address that contains a valid one.
  Whatever was found on the page is forgotten before the browser leaves it.
-/

import PageObjects.Page.Action
import PageObjects.Text.Search
import PageObjects.Url.Query

namespace PageObjects
namespace Page

variable {W : Type}

/-! ## Addresses -/

/-- The first valid address that contains the base of a pattern, with the query of the pattern. -/
def matchingUrl (page : Page) (pattern : String) : Except PageError String :=
  let (base, query) := Url.splitQuery pattern
  match page.config.validUrls.find? fun url =>
    Text.occursIn (Text.trimEnd '/' base.toList) url.toList with
  | some url => .ok (if query.isEmpty then url else url ++ "?" ++ query)
  | none => .error (.pageNotOpened ("You want to open url by pattern=" ++ Text.quoted pattern
      ++ " but url not found in valid_urls: " ++ Text.quotedList page.config.validUrls))

/-- The address to open: for a pattern that is not empty the one that matches it, with further
    pairs in its query. -/
def address (page : Page) (pattern : Option String) (params : List (String × String)) :
    Except PageError String := do
  let url ← match pattern.filter fun text => !text.isEmpty with
    | some text => page.matchingUrl text
    | none => .ok page.config.pageUrl
  return Url.addParams url params

/-- Whether an address that the browser shows is one of the page: up to its query it contains a
    valid address, slashes at the end apart. -/
def isAt (page : Page) (opened : String) : Bool :=
  let base := (Url.baseOf opened).toList
  page.config.validUrls.any fun url => Text.occursIn (Text.trimEnd '/' url.toList) base

/-! ## The address of the browser -/

/-- The address that the browser shows. -/
def openedUrl : Action W String :=
  .pageCall .currentUrl "current_url"

/-- Fails unless the browser shows an address of the page. -/
def checkOpened : Action W Unit := do
  let opened ← openedUrl
  let page := (← read).page
  unless page.isAt opened do
    throw (.pageNotOpened ("Get attr of " ++ page.name ++ ", but current url: " ++ opened))

/-- The number that names the object of the opened address. -/
def openedId : Action W (Option Int) := do
  checkOpened
  return Url.objectId? (← openedUrl)

/-- The first value of a parameter of the opened address. -/
def openedParam (name : String) : Action W (Option String) := do
  checkOpened
  return (Url.paramValues? (← openedUrl) name).bind List.head?

/-! ## Waits for the page -/

/-- The script that tells whether the frontend has rendered the page. -/
def readyScript : String :=
  "if ('e2eReady' in window && window.e2eReady === true)\x7breturn true;\x7delse\x7breturn false;\x7d"

/-- Whether the frontend reports that the page is ready. -/
def isReady : Action W Bool := do
  let ready ← Action.pageCall (.executeScript readyScript []) "execute_script"
  return ready.bool? == some true

/-- The error of a wait for the readiness of the page. -/
def notReady : PageError → PageError
  | .timeout _ _ =>
    .page "Check that \"e2eReady\" attribute set by frontend on the current page."
  | e => e

/-- Waits until the page is ready, if its application reports that. -/
def waitReady : Action W Unit := do
  if (← read).page.config.hasPageReadyScript then
    tryCatch (Action.waitAsSet "page ready script" isReady) fun e => throw (notReady e)

/-- Whether no element with this locator is visible. -/
def isInvisible (locator : Locator) : Action W Bool := do
  match ← Action.ask (.session (.find locator)) with
  | .error .stale | .error (.noSuchElement _) => return true
  | .error fault => throw (.ofFault fault (← read).page.name "find_element")
  | .ok reference =>
    match ← Action.ask (.element reference .isDisplayed) with
    | .error .stale | .error (.noSuchElement _) => return true
    | .error fault => throw (.ofFault fault (← read).page.name "is_displayed")
    | .ok displayed => return !displayed

/-- Waits until no element with a class is visible; there is none with an empty class. -/
def waitInvisible (className : String) : Action W Unit := do
  unless className.isEmpty do
    let locator := Locator.className className
    Action.waitAsSet (locator.display ++ " to disappear") (isInvisible locator)

/-- Waits until the loading indicator of the page is gone. -/
def waitPageLoader : Action W Unit := do
  waitInvisible (← read).page.config.pageLoaderClass

/-- Waits until the loading indicator of tables is gone. -/
def waitTableLoader : Action W Unit := do
  waitInvisible (← read).page.config.tableLoaderClass

/-- Waits until both loading indicators are gone. -/
def waitLoaders : Action W Unit := do
  waitPageLoader
  waitTableLoader

/-! ## Going to an address -/

/-- Goes to any address, without a wait. -/
def redirect (url : String) : Action W Unit := do
  Action.forgetAll
  Action.pageCall (.navigate url) "navigate"

/-- Opens the page, at its own address or at the valid one that matches a pattern. -/
def visit (pattern : Option String) (params : List (String × String)) : Action W Unit := do
  redirect (← (← read).page.address pattern params)
  waitReady
  waitLoaders

/-! ## Tabs -/

/-- Closes the tabs of a list, one after the other. -/
def closeTabs : List String → Action W Unit
  | [] => pure ()
  | tab :: rest => do
    Action.pageCall (.switchToWindow tab) "switch_to_window"
    Action.pageCall .closeWindow "close_window"
    closeTabs rest

/-- Closes all tabs but one and goes to that one. -/
def keepTab (kept : String) (others : List String) : Action W Unit := do
  Action.forgetAll
  closeTabs others
  Action.pageCall (.switchToWindow kept) "switch_to_window"

/-- Keeps only the tab that was opened last. -/
def focusLastTab : Action W Unit := do
  let tabs ← Action.pageCall .windowHandles "window_handles"
  match tabs.reverse with
  | last :: first :: middle => keepTab last (first :: middle).reverse
  | _ => pure ()

/-- Keeps only the first tab. -/
def focusFirstTab : Action W Unit := do
  let tabs ← Action.pageCall .windowHandles "window_handles"
  match tabs with
  | first :: second :: rest => keepTab first (second :: rest)
  | _ => pure ()

end Page
end PageObjects
