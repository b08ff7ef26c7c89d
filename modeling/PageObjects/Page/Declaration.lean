/-
  PageObjects.Page.Declaration

  How a declaration comes about: step by step, from a page of an application with
  nothing in it. A step sets a part of the configuration, or puts slots behind those
  before; merging a section brings its slots under its name.
-/

import PageObjects.Page.Spec

namespace PageObjects

/-- The names that the slots of a section have on a page. -/
def Section.slots (part : Section) : List String :=
  (part.scoped part.elements).map (·.1) ++ (part.scoped part.tables).map (·.1)
    ++ (part.scoped part.groups).map (·.1)

namespace PageSpec

/-- A step of a declaration. -/
inductive Step where
  /-- Sets the route. -/
  | url (route : String)
  /-- Adds a further route that shows the page. -/
  | validUrl (route : String)
  | pageLoaderClass (className : String)
  | tableLoaderClass (className : String)
  | modalVisibleClass (className : String)
  | element (slot : String) (binding : Binding)
  | table (slot : String) (table : TableSpec)
  | group (slot : String) (group : ElementGroup)
  | nested (slot : String) (nested : NestedSpec)
  /-- Adds the slots of a section. -/
  | merge (part : Section)

/-- Takes a step. -/
def take (spec : PageSpec) : Step → PageSpec
  | .url route => { spec with config := { spec.config with url := some route } }
  | .validUrl route =>
    { spec with config := { spec.config with validUrls := spec.config.validUrls ++ [route] } }
  | .pageLoaderClass className =>
    { spec with config := { spec.config with pageLoaderClass := some className } }
  | .tableLoaderClass className =>
    { spec with config := { spec.config with tableLoaderClass := some className } }
  | .modalVisibleClass className =>
    { spec with config := { spec.config with modalVisibleClass := some className } }
  | .element slot binding => { spec with elements := spec.elements ++ [(slot, binding)] }
  | .table slot table => { spec with tables := spec.tables ++ [(slot, table)] }
  | .group slot group => { spec with groups := spec.groups ++ [(slot, group)] }
  | .nested slot nested => { spec with nested := spec.nested ++ [(slot, nested)] }
  | .merge part => spec.withSection part

/-- The declaration of a page of an application, by its steps. -/
def ofSteps (name app : String) (steps : List Step) : PageSpec :=
  steps.foldl take { name, config := { app } }

namespace Step

/-- The names of the slots that a step adds. -/
def slots : Step → List String
  | element slot _ | table slot _ | group slot _ | nested slot _ => [slot]
  | merge part => part.slots
  | _ => []

/-- The names of the table slots that a step adds. -/
def tableSlots : Step → List String
  | table slot _ => [slot]
  | merge part => (part.scoped part.tables).map (·.1)
  | _ => []

end Step
end PageSpec

end PageObjects
