/-
  PageObjects.Component.Tabs

  Strips of tabs. There are two kinds, which differ in their markup; only the newer
  one numbers its tabs.
-/

import PageObjects.Component.Container

namespace PageObjects

variable {W : Type}

/-- The two kinds of tab strips. -/
inductive TabKind where
  | view
  | set
deriving DecidableEq, Repr

namespace TabKind

/-- The tag of the element around the tabs. -/
def tag : TabKind → String
  | .view => "p-tabview"
  | .set => "tabset"

/-- The xpath of the selected tab. -/
def selected : TabKind → String
  | .view => ".//li[contains(@class, \"p-highlight\")]"
  | .set => ".//*[contains(@class, \"nav-item\") and contains(@class, \"active\")]"

/-- The xpath of the tabs whose text contains `text`. -/
def containing (text : String) : TabKind → String
  | .view => ".//a[@role=\"tab\" and contains(string()," ++ XPath.literal text ++ ")]"
  | .set => ".//a[contains(@class, \"nav-link\") and contains(string()," ++ XPath.literal text ++ ")]"

end TabKind

/-- A strip of tabs. -/
structure Tabs where
  element : Handle
  kind : TabKind

namespace Tabs

/-- The strip of tabs of an element. -/
def ofElement (kind : TabKind) (element : Handle) : Action W Tabs := do
  Component.requireTag element kind.tag .unexpectedTag
  return { element, kind }

/-- The selected tab. -/
def selected (tabs : Tabs) : Action W Handle :=
  Action.orMiss (.tabSet "Cannot find selected tab") (tabs.element.find (.xpath tabs.kind.selected))

/-- The text of the selected tab. -/
def selectedText (tabs : Tabs) : Action W String := do
  (← tabs.selected).text

/-- Opens the first tab that matches a locator. -/
def openTab (tabs : Tabs) (locator : Locator) : Action W Unit := do
  let tab ← Action.orMiss (.tabSet ("Cannot find tab " ++ locator.display))
    (tabs.element.find locator)
  Component.clickAndSettle tab tabs.element

/-- Opens the first tab whose text contains `text`. -/
def selectByText (tabs : Tabs) (text : String) : Action W Unit :=
  tabs.openTab (.xpath (tabs.kind.containing text))

/-- Opens the tab with a number, counted from 0. -/
def selectByIndex (tabs : Tabs) (index : Nat) : Action W Unit :=
  match tabs.kind with
  | .view =>
    tabs.openTab (.xpath (".//a[@aria-controls=\"p-tabpanel-" ++ toString index ++ "\"]"))
  | .set => throw (.tabSet ("Selecting tab " ++ toString index ++ " by index is not supported by <"
      ++ tabs.kind.tag ++ ">"))

end Tabs
end PageObjects
