/-
  PageObjects.Locator.Json

  Locators as JSON: a record of the strategy and the value, both required. The
  strategy is written by a name of its own, or as the only member of an object,
  whose value then is null.
-/

import PageObjects.Json.Reader
import PageObjects.Json.Record
import PageObjects.Locator.Basic

namespace PageObjects

namespace Strategy

/-- The name of a strategy in stored locators. -/
def storedName : Strategy → String
  | .id => "id"
  | .xpath => "x_path"
  | .className => "class_name"
  | .tagName => "tag_name"
  | .cssSelector => "css_selector"
  | .name => "name"

/-- The strategy with a stored name. -/
def ofStoredName? (written : String) : Option Strategy :=
  [id, xpath, className, tagName, cssSelector, Strategy.name].find? (·.storedName == written)

/-- The strategy written by a JSON value. -/
def ofJson? : Json → Option Strategy
  | .string text => text.bind ofStoredName?
  | .object [(written, .null)] => written.bind ofStoredName?
  | _ => none

theorem ofStoredName?_storedName (s : Strategy) : ofStoredName? s.storedName = some s := by
  cases s <;> decide

end Strategy

namespace Locator

/-- The locator written by a JSON value. -/
def ofJson? (json : Json) : Option Locator := do
  let fields ← json.fields? ["strategy", "value"]
  let strategy ← Strategy.ofJson? (← fields.lookup "strategy")
  let value ← (← fields.lookup "value").text?
  some ⟨strategy, value⟩

/-- The locator as a JSON value. -/
def toJson (l : Locator) : Json :=
  .ofMembers [("strategy", .ofString l.strategy.storedName), ("value", .ofString l.value)]

/-- Reads a locator from JSON text. -/
def parse (text : String) : Except PageError Locator :=
  match (Json.parse? text).bind ofJson? with
  | some locator => .ok locator
  | none => .error .json

end Locator

end PageObjects
