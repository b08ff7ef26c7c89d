/-
  PageObjects.Page.Element

  What a test does with an element: read it, type into it, look for elements
  inside it, wait for it, and click it. A click waits until the element is displayed
  and enabled, and then follows a tab that it has opened.
-/

import PageObjects.Page.Navigation
import PageObjects.Page.Recovery

namespace PageObjects
namespace Handle

variable {W : Type}

/-- Whether the reference of the handle is stale. -/
def isStale (handle : Handle) : Action W Bool := do
  let reference ← handle.own.reference
  if (← read).driver.probesStale then
    return match ← Action.ask (.element reference .tagName) with
      | .error .stale => true
      | _ => false
  else
    return match ← Action.ask (.element reference .isStale) with
      | .ok stale => stale
      | .error fault => fault == .stale

/-! ## Reading and typing -/

def tagName (handle : Handle) : Action W String := handle.perform .tagName

def text (handle : Handle) : Action W String := handle.perform .text

def attributeValue (handle : Handle) (name : String) : Action W (Option String) :=
  handle.perform (.attribute name)

/-- The value of an input. -/
def value (handle : Handle) : Action W (Option String) := handle.attributeValue "value"

/-- The markup of what the element contains. -/
def innerHtml (handle : Handle) : Action W String := do
  return (← handle.attributeValue "innerHTML").getD ""

/-- The markup of the element. -/
def outerHtml (handle : Handle) : Action W String := do
  return (← handle.attributeValue "outerHTML").getD ""

def isDisplayed (handle : Handle) : Action W Bool := handle.perform .isDisplayed

def isEnabled (handle : Handle) : Action W Bool := handle.perform .isEnabled

def isSelected (handle : Handle) : Action W Bool := handle.perform .isSelected

def sendKeys (handle : Handle) (keys : String) : Action W Unit := handle.perform (.sendKeys keys)

def clear (handle : Handle) : Action W Unit := handle.perform .clear

/-! ## Elements inside -/

/-- The chain of elements that an element inside this one is found under. -/
def chain (handle : Handle) : List Link :=
  handle.own :: handle.ancestors

/-- The first element inside this one that matches a locator. -/
def find (handle : Handle) (locator : Locator) : Action W Handle := do
  register locator none false none handle.chain (← handle.perform (.find locator))

/-- All elements inside this one that match a locator. -/
def findAll (handle : Handle) (locator : Locator) : Action W (List Handle) := do
  registerAll locator none handle.chain 0 (← handle.perform (.findAll locator))

/-! ## Waits and clicks -/

/-- Whether the element is displayed and enabled; a hidden element is not asked further. -/
def isClickable (handle : Handle) : Action W Bool := do
  if ← handle.isDisplayed then handle.isEnabled else return false

/-- Waits until the element is displayed and enabled. -/
def waitClickable (handle : Handle) : Action W Unit := do
  handle.own.requirePage
  Action.waitAsSet (handle.own.locator.display ++ " to be clickable") handle.isClickable

/-- Waits until the element is displayed. -/
def waitVisible (handle : Handle) : Action W Unit := do
  handle.own.requirePage
  Action.waitAsSet (handle.own.locator.display ++ " to be visible") handle.isDisplayed

/-- Waits until the element can be clicked and clicks it; then, if asked to, keeps only the tab
    that was opened last. -/
def click (handle : Handle) (focusOpenedTab : Bool := true) : Action W Unit := do
  handle.waitClickable
  handle.perform .click
  if focusOpenedTab then
    handle.own.requirePage
    Page.focusLastTab

/-- Clicks the element and waits until the loading indicators are gone. -/
def clickAndWait (handle : Handle) (focusOpenedTab : Bool := true) : Action W Unit := do
  handle.click focusOpenedTab
  handle.own.requirePage
  Page.waitLoaders

end Handle
end PageObjects
