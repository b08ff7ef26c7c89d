/-
  PageObjects.Component.Select

  A drop-down list with a search box. Its options are there only while it is open,
  and come in late: until the first of them is a real one, a note about loading
  stands in its place. A list without any match shows one disabled option.
-/

import PageObjects.Component.Container
import PageObjects.Text.Blank
import PageObjects.Text.Search

namespace PageObjects

variable {W : Type}

/-- A drop-down list. -/
structure Select where
  container : Handle
  /-- Whether several options can be selected. -/
  multiple : Bool

namespace Select

/-- The drop-down list in a container. -/
def ofContainer (container : Handle) : Action W Select := do
  Component.requireTag container "ng-select" .unexpectedTag
  let multiple ← container.attributeValue "multiple"
  return { container, multiple := multiple.any (· != "false") }

/-! ## Options -/

/-- The locator of all options. -/
def anyOption : Locator :=
  .xpath "//*[contains(@class,\"ng-option\")]"

/-- The locator of the options whose text contains `text`. -/
def optionContaining (text : String) : Locator :=
  .xpath ("//*[contains(@class,\"ng-option\") and contains(string()," ++ XPath.literal text ++ ")]")

/-- Whether the text of an option is a note that stands there until options come in. No letter
    outside ASCII has a small form that occurs in these notes. -/
def isPlaceholder (text : String) : Bool :=
  let lower := text.toLower.toList
  Text.occursIn "load".toList lower || Text.occursIn "not found".toList lower

/-- Whether options have come in. -/
def areLoaded : List Handle → Action W Bool
  | [] => return false
  | first :: _ => return !isPlaceholder (← first.text)

/-- The wait for options: one second. -/
def loading : WaitOptions := { timeoutMs := 1000, pollMs := 100 }

/-- Waits until options have come in; when the time is up, whatever is listed is taken. -/
def waitLoaded (select : Select) (locator : Locator) : Action W (List Handle) := do
  let (result, options) ← Action.waitKeeping loading "select options to load" []
    (select.container.findAll locator) areLoaded
  match result with
  | .ok _ | .error (.timeout _ _) => return options
  | .error e => throw e

/-- Whether the panel with the options is displayed. -/
def isOpen : Action W Bool := do
  (← Page.find (.tagName "ng-dropdown-panel")).isDisplayed

/-- Whether an option is the one that stands there when nothing matches. -/
def isDisabled (option : Handle) : Action W Bool := do
  let classes := (← option.attributeValue "class").getD ""
  return (Text.words classes).contains "ng-option-disabled"

/-- Opens the list and gives the options that match a locator. -/
def findOptions (select : Select) (locator : Locator) : Action W (List Handle) := do
  select.container.click
  select.container.own.requirePage
  Action.waitAsSet "drop-down panel to open" isOpen
  let options ← select.waitLoaded locator
  match options with
  | [only] => return if ← isDisabled only then [] else options
  | _ => return options

/-- Opens the list and gives all options. -/
def options (select : Select) : Action W (List Handle) :=
  select.findOptions anyOption

/-! ## Selection -/

/-- Selects an option that is not selected yet. -/
def choose (option : Handle) : Action W Unit := do
  unless ← option.isSelected do option.click

/-- Selects the first of some options, or all of them. -/
def chooseFrom (all : Bool) : List Handle → Action W Unit
  | [] => return
  | option :: rest => do
    choose option
    if all then chooseFrom all rest

/-- Selects the option at a position, counted from 0. -/
def selectByIndex (select : Select) (index : Nat) : Action W Unit := do
  match (← select.options)[index]? with
  | some option => choose option
  | none => throw (.select ("Could not locate option with index " ++ toString index))

/-- Types into the search box. -/
def sendKeys (select : Select) (keys : String) : Action W Unit := do
  (← select.container.find (.tagName "input")).sendKeys keys

/-- Searches for options and selects those whose text contains `text`: the first one, or all of
    them if that is asked for and several can be selected. -/
def selectByText (select : Select) (text : String) (all : Bool) (filter : Option String) :
    Action W Unit := do
  select.sendKeys (filter.getD text)
  let options ← select.findOptions (optionContaining text)
  if options.isEmpty then
    throw (.select ("Could not locate option with visible text " ++ text))
  chooseFrom (select.multiple && all) options

/-- Selects options by the number between brackets in their text. -/
def selectById (select : Select) (id : Int) (all : Bool) : Action W Unit :=
  tryCatch (select.selectByText ("[" ++ toString id ++ "]") all (some (toString id))) fun
    | .select _ => throw (.select ("Could not locate option with id " ++ toString id))
    | e => throw e

end Select
end PageObjects
