/-
  PageObjects.Browser.Change

  The browser in memory and the changes that a test may make to it from outside.
  Its page is a set of named nodes; a node answers queries by the text of the
  locator alone, under which its children were put, and so does the document. Every
  new rendering of the page makes the references of the one before stale.
-/

import PageObjects.Browser.Call
import PageObjects.Keyed

namespace PageObjects

/-- A change from outside. Nodes are named, and `value` is the text of a locator. -/
inductive Change where
  /-- Lets the document find a node. -/
  | add (value node : String)
  /-- Lets the document find nothing under a locator. -/
  | remove (value : String)
  /-- Renders the page anew. -/
  | rerender
  /-- Shows an address without going there. -/
  | setUrl (url : String)
  | openWindow (handle : String)
  /-- Gives scripts that contain a fragment a result. -/
  | scriptResult (fragment : String) (result : Json)
  | addCookie (name value : String)
  | pushLog (kind : String) (entry : Json)
  | setText (node text : String)
  | setAttribute (node name value : String)
  | setDisplayed (node : String) (isOn : Bool)
  | setEnabled (node : String) (isOn : Bool)
  | setSelected (node : String) (isOn : Bool)
  | addChild (node value child : String)
  | removeChildren (node value : String)
  /-- Lets the next calls to a node find it stale. -/
  | failStale (node : String) (count : Nat)
  /-- Lets the next call to a node fail. -/
  | failWith (node : String) (fault : Fault)
  /-- Sets the changes that every click on a node brings about. -/
  | onClick (node : String) (changes : List Change)
deriving Repr

/-- A node of the page. -/
structure Browser.Node where
  tag : String := "div"
  text : String := ""
  attributes : Keyed String String := []
  isDisplayed : Bool := true
  isEnabled : Bool := true
  isSelected : Bool := false
  /-- The names of the children, by the text of the locator that finds them. -/
  children : Keyed String (List String) := []
  clicks : Nat := 0
  /-- How many of the next calls find the node stale. -/
  staleCalls : Nat := 0
  /-- The fault that the next call meets. -/
  failure : Option Fault := none
  onClick : List Change := []

/-- A new node with a tag, which is kept in lower case. -/
def Browser.Node.ofTag (tag : String) : Browser.Node :=
  { tag := tag.toLower }

/-- A browser in memory. -/
structure Browser where
  url : String := "about:blank"
  /-- The addresses that were gone to, in order. -/
  history : List String := []
  /-- The number of the present rendering of the page. -/
  rendering : Nat := 0
  nodes : Keyed String Browser.Node := []
  /-- The names of the nodes that the document finds, by the text of the locator. -/
  document : Keyed String (List String) := []
  /-- How often the document was searched, by the text of the locator. -/
  queries : Keyed String Nat := []
  /-- The scripts that were run, in order. -/
  scripts : List (String × List ScriptArgument) := []
  /-- The results of scripts by fragments, the latest first. -/
  scriptResults : List (String × Json) := []
  cookies : List Cookie := []
  windows : List String := ["window-1"]
  currentWindow : String := "window-1"
  logs : Keyed String (List Json) := []
  hasQuit : Bool := false
  /-- The reading of the clock, in milliseconds. -/
  clock : Nat := 0

namespace Browser

/-- A node by its name. -/
def node (browser : Browser) (name : String) : Node :=
  (browser.nodes.find? name).getD {}

/-- Changes a node. -/
def adjustNode (name : String) (f : Node → Node) (browser : Browser) : Browser :=
  { browser with nodes := browser.nodes.adjust name {} f }

/-- Renders the page anew. -/
def rerender (browser : Browser) : Browser :=
  { browser with rendering := browser.rendering + 1 }

/-- Carries out a change. -/
def apply (browser : Browser) : Change → Browser
  | .add value node =>
    { browser with document := browser.document.adjust value [] fun nodes => nodes ++ [node] }
  | .remove value => { browser with document := browser.document.drop value }
  | .rerender => browser.rerender
  | .setUrl url => { browser with url }
  | .openWindow handle => { browser with windows := browser.windows ++ [handle] }
  | .scriptResult fragment result =>
    { browser with scriptResults := (fragment, result) :: browser.scriptResults }
  | .addCookie name value =>
    let cookie := [(some "name", Json.ofString name), (some "value", Json.ofString value)]
    { browser with cookies := browser.cookies ++ [cookie] }
  | .pushLog kind entry =>
    { browser with logs := browser.logs.adjust kind [] fun entries => entries ++ [entry] }
  | .setText node text => browser.adjustNode node fun n => { n with text }
  | .setAttribute node name value =>
    browser.adjustNode node fun n => { n with attributes := n.attributes.put name value }
  | .setDisplayed node isOn => browser.adjustNode node fun n => { n with isDisplayed := isOn }
  | .setEnabled node isOn => browser.adjustNode node fun n => { n with isEnabled := isOn }
  | .setSelected node isOn => browser.adjustNode node fun n => { n with isSelected := isOn }
  | .addChild node value child =>
    browser.adjustNode node fun n =>
      { n with children := n.children.adjust value [] fun children => children ++ [child] }
  | .removeChildren node value =>
    browser.adjustNode node fun n => { n with children := n.children.drop value }
  | .failStale node count => browser.adjustNode node fun n => { n with staleCalls := count }
  | .failWith node fault => browser.adjustNode node fun n => { n with failure := some fault }
  | .onClick node changes => browser.adjustNode node fun n => { n with onClick := changes }

/-- Carries out some changes, in order. -/
def applyAll (browser : Browser) (changes : List Change) : Browser :=
  changes.foldl apply browser

end Browser

end PageObjects
