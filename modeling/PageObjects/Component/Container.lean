/-
  PageObjects.Component.Container

  What all components share: each is known by the tag of the element that contains
  it, and is found there only if the tag is the right one.
-/

import PageObjects.Page.Slot

namespace PageObjects
namespace Component

variable {W : Type}

/-- Fails unless an element has the tag of a component, in letters of either case. -/
def requireTag (element : Handle) (tag : String) (complain : String → PageError) :
    Action W Unit := do
  let actual ← element.tagName
  unless actual.toLower == tag.toLower do
    throw (complain (element.own.locator.display ++ " expects a <" ++ tag ++ "> element, got <"
      ++ actual ++ ">"))

/-- Clicks an element of a component and waits until the loading indicators are gone. -/
def clickAndSettle (element container : Handle) : Action W Unit := do
  element.click
  container.own.requirePage
  Page.waitLoaders

end Component
end PageObjects
