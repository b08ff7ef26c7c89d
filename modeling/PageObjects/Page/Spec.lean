/-
  PageObjects.Page.Spec

  The declaration of a page, and the page that it declares. A declaration puts
  element bindings, tables, groups and nested tables into named slots; a section is
  a bundle of slots that several pages share. `Page.ofSpec` is defined exactly for
  the sound declarations: distinct slots, nested tables inside declared tables, and
  a configuration that can be completed.
-/

import PageObjects.Group
import PageObjects.Keyed
import PageObjects.Settings.PageConfig
import PageObjects.Table.Column
import PageObjects.Wait

namespace PageObjects

/-- An element, or a list of elements, as it is declared. -/
structure Binding where
  locator : Locator
  cardinality : Cardinality
deriving DecidableEq, Repr

namespace Binding

/-- The binding of a declaration, where the strategy may be left out and the value may not. -/
def declared (strategy : Option Strategy) (value : Option String) (cardinality : Cardinality) :
    Except PageError Binding :=
  (Locator.declared strategy value).map fun locator => ⟨locator, cardinality⟩

/-- The first match of a locator. -/
def one (locator : Locator) : Binding := ⟨locator, .one⟩

/-- All matches of a locator. -/
def many (locator : Locator) : Binding := ⟨locator, .many⟩

end Binding

/-- A bundle of slots that several pages share. -/
structure Section where
  name : String
  elements : List (String × Binding) := []
  tables : List (String × TableSpec) := []
  groups : List (String × ElementGroup) := []

/-- A slot of a section, by the name that it has on a page. -/
def Section.scoped {α : Type} (part : Section) (slots : List (String × α)) : List (String × α) :=
  slots.map fun (slot, value) => (part.name ++ "." ++ slot, value)

/-- The declaration of a page. -/
structure PageSpec where
  name : String
  config : PageConfig
  elements : List (String × Binding) := []
  tables : List (String × TableSpec) := []
  groups : List (String × ElementGroup) := []
  nested : List (String × NestedSpec) := []

namespace PageSpec

/-- The declaration with the slots of a section behind its own. -/
def withSection (spec : PageSpec) (part : Section) : PageSpec :=
  { spec with
    elements := spec.elements ++ part.scoped part.elements
    tables := spec.tables ++ part.scoped part.tables
    groups := spec.groups ++ part.scoped part.groups }

/-- The names of all slots. -/
def slots (spec : PageSpec) : List String :=
  spec.elements.map (·.1) ++ spec.tables.map (·.1) ++ spec.groups.map (·.1) ++ spec.nested.map (·.1)

/-- The first name of a list that stands in it before. -/
def firstRepeated? : (seen names : List String) → Option String
  | _, [] => none
  | seen, name :: rest =>
    if name ∈ seen then some name else firstRepeated? (name :: seen) rest

/-- The first nested slot whose parent is no table slot, with that parent. -/
def firstOrphan? (spec : PageSpec) : Option (String × String) :=
  (spec.nested.find? fun (_, nested) => !(spec.tables.map (·.1)).contains nested.parent).map
    fun (slot, nested) => (slot, nested.parent)

end PageSpec

/-- A page of an application, with its configuration and its slots. -/
structure Page where
  name : String
  settings : Settings
  config : ResolvedConfig
  elements : Keyed String Binding
  tables : Keyed String TableSpec
  groups : Keyed String ElementGroup
  nested : Keyed String NestedSpec

namespace Page

/-- The page of a declaration. -/
def ofSpec (spec : PageSpec) (settings : Settings) : Except PageError Page := do
  if let some slot := PageSpec.firstRepeated? [] spec.slots then
    .error (.config ("Slot " ++ Text.quoted slot ++ " is declared twice on page " ++ spec.name))
  if let some (slot, parent) := spec.firstOrphan? then
    .error (.config ("Nested tables " ++ Text.quoted slot ++ " refer to " ++ Text.quoted parent
      ++ ", which is not a table slot of page " ++ spec.name))
  let config ← spec.config.resolve settings
  .ok { name := spec.name, settings, config
        elements := spec.elements, tables := spec.tables
        groups := spec.groups, nested := spec.nested }

/-- The wait that the settings describe. -/
def waitOptions (page : Page) : WaitOptions :=
  { timeoutMs := page.settings.waitTimeoutMs, pollMs := page.settings.pollIntervalMs }

/-- The wait with another timeout or another pause. -/
def customWait (page : Page) (timeoutMs pollMs : Option Nat) : WaitOptions :=
  { timeoutMs := timeoutMs.getD page.settings.waitTimeoutMs
    pollMs := pollMs.getD page.settings.pollIntervalMs }

end Page

end PageObjects
