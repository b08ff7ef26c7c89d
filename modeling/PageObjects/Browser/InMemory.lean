/-
  PageObjects.Browser.InMemory

  How the browser in memory answers calls. A call to an element first meets the
  fault that was laid for it, then the staleness that was laid for it, then the
  staleness of its reference; a search of the document is counted; a script gives
  the result that was laid last for a fragment of it.
-/

import PageObjects.Browser.Change
import PageObjects.Browser.Driver
import PageObjects.Text.Search

namespace PageObjects
namespace Browser

/-! ## Elements -/

/-- The node of a reference, or the fault that the call meets on the way to it. -/
def reach (reference : Reference) (browser : Browser) : Except Fault Node × Browser :=
  let node := browser.node reference.node
  match node.failure with
  | some fault => (.error fault, browser.adjustNode reference.node fun n => { n with failure := none })
  | none =>
    if 0 < node.staleCalls then
      (.error .stale, browser.adjustNode reference.node fun n =>
        { n with staleCalls := n.staleCalls - 1 })
    else if reference.rendering = browser.rendering then (.ok node, browser)
    else (.error .stale, browser)

/-- References to some nodes, in the present rendering. -/
def references (browser : Browser) (names : List String) : List Reference :=
  names.map fun name => ⟨name, browser.rendering⟩

/-- The first of some references, or the fault that there is none. -/
def first (locator : Locator) : List Reference → Except Fault Reference
  | [] => .error (.noSuchElement locator.display)
  | reference :: _ => .ok reference

/-- The children of a node that match a locator. -/
def childrenOf (browser : Browser) (node : Node) (locator : Locator) : List Reference :=
  browser.references ((node.children.find? locator.value).getD [])

/-- The answer of a node that was reached. -/
def nodeAnswer (name : String) (node : Node) (browser : Browser) :
    (call : ElementCall) → Except Fault call.Answer × Browser
  | .tagName => (.ok node.tag, browser)
  | .text => (.ok node.text, browser)
  | .attribute attr => (.ok (node.attributes.find? attr), browser)
  | .click =>
    (.ok (), (browser.adjustNode name fun n => { n with clicks := n.clicks + 1 }).applyAll node.onClick)
  | .sendKeys keys =>
    (.ok (), browser.adjustNode name fun n =>
      { n with attributes := n.attributes.adjust "value" "" fun value => value ++ keys })
  | .clear =>
    (.ok (), browser.adjustNode name fun n => { n with attributes := n.attributes.put "value" "" })
  | .isDisplayed => (.ok node.isDisplayed, browser)
  | .isEnabled => (.ok node.isEnabled, browser)
  | .isSelected => (.ok node.isSelected, browser)
  | .find locator => (first locator (browser.childrenOf node locator), browser)
  | .findAll locator => (.ok (browser.childrenOf node locator), browser)
  | .isStale => (.ok false, browser)

/-- The answer of an element. Whether a reference is stale is told without a call to its node. -/
def elementAnswer (reference : Reference) (browser : Browser) :
    (call : ElementCall) → Except Fault call.Answer × Browser
  | .isStale => (.ok (reference.rendering != browser.rendering), browser)
  | call =>
    match browser.reach reference with
    | (.error fault, browser) => (.error fault, browser)
    | (.ok node, browser) => browser.nodeAnswer reference.node node call

/-! ## Session -/

/-- The nodes of the document that match a locator; the search is counted. -/
def search (locator : Locator) (browser : Browser) : List Reference × Browser :=
  (browser.references ((browser.document.find? locator.value).getD []),
    { browser with queries := browser.queries.adjust locator.value 0 (· + 1) })

/-- Whether a fragment occurs in a script. -/
def mentions (script fragment : String) : Bool :=
  Text.occursIn fragment.toList script.toList

/-- The result of a script. The two scripts that clear the local storage have none. -/
def scriptResult (browser : Browser) (script : String) : Json :=
  if mentions script "localStorage.clear()" || mentions script "localStorage.removeItem" then .null
  else ((browser.scriptResults.find? fun (fragment, _) => mentions script fragment).map (·.2)).getD
    .null

/-- The answer of the session. -/
def sessionAnswer (browser : Browser) : (call : SessionCall) → Except Fault call.Answer × Browser
  | .navigate url => (.ok (), { browser with url, history := browser.history ++ [url] }.rerender)
  | .currentUrl => (.ok browser.url, browser)
  | .executeScript script arguments =>
    (.ok (browser.scriptResult script),
      { browser with scripts := browser.scripts ++ [(script, arguments)] })
  | .cookies => (.ok browser.cookies, browser)
  | .deleteCookie name =>
    (.ok (), { browser with cookies := browser.cookies.filter fun c => c.name? != some name })
  | .deleteAllCookies => (.ok (), { browser with cookies := [] })
  | .find locator =>
    let (found, browser) := browser.search locator
    (first locator found, browser)
  | .findAll locator =>
    let (found, browser) := browser.search locator
    (.ok found, browser)
  | .windowHandles => (.ok browser.windows, browser)
  | .switchToWindow handle =>
    if browser.windows.contains handle then (.ok (), { browser with currentWindow := handle })
    else (.error (.other ("no such window: " ++ handle)), browser)
  | .closeWindow =>
    (.ok (), { browser with windows := browser.windows.filter (· != browser.currentWindow) })
  | .browserLog kind =>
    (.ok ((browser.logs.find? kind).getD []), { browser with logs := browser.logs.drop kind })

/-- The state behind an answer of the provider. -/
def afterProviderCall (browser : Browser) : ProviderCall → Browser
  | .session fresh => if fresh then { browser with cookies := [] } else browser
  | .quit => { browser with hasQuit := true }

/-- The answer to a call. -/
def answer (browser : Browser) : (call : Call) → Except Fault call.Answer × Browser
  | .provider call => (.ok (), browser.afterProviderCall call)
  | .session call => browser.sessionAnswer call
  | .element reference call => browser.elementAnswer reference call

/-- A pause takes at least one millisecond. -/
def pause (ms : Nat) (browser : Browser) : Browser :=
  { browser with clock := browser.clock + max ms 1 }

/-- The driver of the browser in memory. -/
def driver : Driver Browser where
  answer call browser := browser.answer call
  clock := ⟨Browser.clock, pause⟩

end Browser
end PageObjects
