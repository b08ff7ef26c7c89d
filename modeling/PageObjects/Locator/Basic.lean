/-
  PageObjects.Locator.Basic

  Locators: how an element is found in a document, by a strategy and a value.
  `Locator.declared` builds the locator of a declaration, where the strategy may
  be left out and the value may not; `Locator.display` is the text by which
  messages and call records name a locator.
-/

import PageObjects.Error
import PageObjects.XPath

namespace PageObjects

/-- What the value of a locator is compared with. -/
inductive Strategy where
  | id
  | xpath
  | className
  | tagName
  | cssSelector
  | name
deriving DecidableEq, Repr

/-- The name of a strategy in the browser protocol. -/
def Strategy.wireName : Strategy → String
  | .id => "id"
  | .xpath => "xpath"
  | .className => "class name"
  | .tagName => "tag name"
  | .cssSelector => "css selector"
  | .name => "name"

/-- How an element is found in a document. -/
structure Locator where
  strategy : Strategy
  value : String
deriving DecidableEq, Repr

namespace Locator

/-- The locator of a declaration: xpath is the strategy where none is given. -/
def declared (strategy : Option Strategy) (value : Option String) : Except PageError Locator :=
  match value with
  | none => .error (.config missingValue)
  | some value =>
    if value.isEmpty then .error (.config missingValue)
    else .ok ⟨strategy.getD .xpath, value⟩
where
  /-- The complaint about a declaration without a value. -/
  missingValue : String := "[value, search_by] param must be passed to the element binding"

/-- Elements found by an xpath expression. -/
def xpath (value : String) : Locator := ⟨.xpath, value⟩

/-- Elements found by their id. -/
def id (value : String) : Locator := ⟨.id, value⟩

/-- Elements found by one of their classes. -/
def className (value : String) : Locator := ⟨.className, value⟩

/-- Elements found by their tag. -/
def tagName (value : String) : Locator := ⟨.tagName, value⟩

/-- Elements found by a style selector. -/
def css (value : String) : Locator := ⟨.cssSelector, value⟩

/-- Elements found by their name attribute. -/
def name (value : String) : Locator := ⟨.name, value⟩

/-- Elements of any tag with an attribute value. -/
def byAttribute (attr value : String) : Locator :=
  .xpath (XPath.withAttribute "*" attr value)

/-- The text by which messages name a locator. -/
def display (l : Locator) : String :=
  l.strategy.wireName ++ "=\"" ++ l.value ++ "\""

end Locator

end PageObjects
