/-
  PageObjects.Page.Slot

  Elements by slot. The handles that a binding was resolved to are remembered under
  its slot and given again until the first of them is stale or the page is left.
  A lookup outside the slots is never remembered.
-/

import PageObjects.Page.Element

namespace PageObjects

variable {W : Type}

namespace Binding

/-- Queries the browser, for a slot if one is given, and remembers nothing. -/
def query (binding : Binding) (slot : Option String) : Action W Resolved := do
  let context := slot.getD Link.anonymous
  match binding.cardinality with
  | .one =>
    let reference ← Action.sessionCall (.find binding.locator) context "find_element"
    return .one (← Handle.register binding.locator slot slot.isSome none [] reference)
  | .many =>
    let references ← Action.sessionCall (.findAll binding.locator) context "find_elements"
    if references.isEmpty then throw (.elementNotFound binding.locator.display)
    return .many (← Handle.registerAll binding.locator slot [] 0 references)

/-- The query for one element. -/
theorem query_one (locator : Locator) (slot : Option String) :
    (Binding.one locator).query slot = (do
      let reference ← Action.sessionCall (.find locator) (slot.getD Link.anonymous) "find_element"
      return .one (← Handle.register locator slot slot.isSome none [] reference) :
        Action W Resolved) := rfl

/-- The handles that are remembered for a slot, unless the first of them is stale. -/
def live? (slot : String) : Action W (Option Resolved) := do
  match ← Action.cached? slot with
  | some (.elements resolved) =>
    match resolved.toList with
    | [] => return none
    | first :: _ => return if ← first.isStale then none else some resolved
  | _ => return none

/-- The handles of a binding: those remembered for the slot, else those of a new query, which are
    then remembered. -/
def resolve (binding : Binding) (slot : String) : Action W Resolved := do
  Page.checkOpened
  match ← live? slot with
  | some resolved => return resolved
  | none =>
    let resolved ← binding.query (some slot)
    Action.remember slot (.elements resolved)
    return resolved

end Binding

namespace Page

/-! ## Slots -/

/-- The complaint about a slot that is not declared. -/
def noSlot (page : Page) (kind slot : String) : PageError :=
  .config ("Page " ++ page.name ++ " has no " ++ kind ++ " slot " ++ Text.quoted slot)

/-- The value of a declared slot. -/
def declared {α : Type} (kind : String) (slots : Page → Keyed String α) (slot : String) :
    Action W α := do
  let page := (← read).page
  match (slots page).find? slot with
  | some value => return value
  | none => throw (page.noSlot kind slot)

/-- The handles of an element slot. -/
def resolve (slot : String) : Action W Resolved := do
  (← declared "element" Page.elements slot).resolve slot

/-- The handle of an element slot, the first one of a list. -/
def element (slot : String) : Action W Handle := do
  (← resolve slot).head

/-- The handles of an element slot, in order. -/
def elementList (slot : String) : Action W (List Handle) := do
  return (← resolve slot).toList

/-- Whether something is remembered for a slot. -/
def isCached (slot : String) : Action W Bool := do
  return (← get).memory.cache.has slot

/-- Makes the query of resolved handles again: the remembered value of their slot is forgotten and
    the slot resolved anew; handles without a slot are looked up anew. -/
def reload (resolved : Resolved) : Action W Resolved := do
  let first ← resolved.head
  let binding : Binding := match resolved with
    | .one _ => .one first.own.locator
    | .many _ => .many first.own.locator
  match first.own.slot with
  | some slot =>
    Action.forget slot
    binding.resolve slot
  | none => binding.query none

/-! ## Lookups outside the slots -/

/-- The first match of a locator. -/
def find (locator : Locator) : Action W Handle := do
  (← (Binding.one locator).query none).head

/-- All matches of a locator, at least one. -/
def findAll (locator : Locator) : Action W (List Handle) := do
  return (← (Binding.many locator).query none).toList

/-- The first element that carries a name for tests. -/
def findNamed (name : String) : Action W Handle := do
  find (.byAttribute (← read).page.settings.dataAttribute name)

/-! ## Groups -/

/-- The binding of the member of a group with a given name. -/
def memberBinding (group : ElementGroup) (name : String) : Action W Binding := do
  match (← get).memory.members.find? name with
  | some binding => return binding
  | none =>
    let locator := group.locator (← read).page.settings name
    let binding : Binding := ⟨locator, group.cardinality⟩
    Action.modifyMemory fun memory => { memory with members := memory.members.put name binding }
    return binding

/-- The binding of a member of a group. -/
def groupBinding (group : ElementGroup) (indices : List String) : Action W Binding := do
  memberBinding group (← group.name indices)

/-- The handles of a member of a group, remembered under its name. -/
def groupMember (group : ElementGroup) (indices : List String) : Action W Resolved := do
  let name ← group.name indices
  (← memberBinding group name).resolve name

/-- The first element of a member of a group, not remembered. -/
def groupRelative (group : ElementGroup) (indices : List String) : Action W Handle := do
  let name ← group.name indices
  find (group.locator (← read).page.settings name)

/-! ## Waits for elements -/

/-- Whether the first match of a locator is displayed; not to find it is an error. -/
def isVisible (locator : Locator) : Action W Bool := do
  let name := (← read).page.name
  let reference ← Action.sessionCall (.find locator) name "find_element"
  Action.answered name "is_displayed" (← Action.ask (.element reference .isDisplayed))

/-- Whether the first match of a locator is displayed and enabled. -/
def isClickable (locator : Locator) : Action W Bool := do
  let name := (← read).page.name
  let reference ← Action.sessionCall (.find locator) name "find_element"
  let displayed ← Action.answered name "is_displayed" (← Action.ask (.element reference .isDisplayed))
  if displayed then
    Action.answered name "is_enabled" (← Action.ask (.element reference .isEnabled))
  else return false

/-- What the wait for a visible element waits for. -/
def visibility (locator : Locator) : String :=
  locator.display ++ " to be visible"

/-- Waits until a dialog is visible. -/
def waitDialog : Action W Unit := do
  let locator := Locator.byAttribute "role" "dialog"
  Action.waitAsSet (visibility locator) (isVisible locator)

/-- Waits until an element with exactly the modal class is visible; none is awaited for an empty
    class. -/
def waitModal : Action W Unit := do
  let className := (← read).page.config.modalVisibleClass
  unless className.isEmpty do
    let locator := Locator.byAttribute "class" className
    Action.waitAsSet (visibility locator) (isVisible locator)

/-- Waits until the element of a binding is visible. -/
def waitAccessible (binding : Binding) (timeoutMs : Option Nat) : Action W Unit := do
  Action.wait ((← read).page.customWait timeoutMs (some Wait.elementPollMs))
    (visibility binding.locator) (isVisible binding.locator)

/-- Waits until the element of a binding is visible and enabled. -/
def waitClickable (binding : Binding) (timeoutMs : Option Nat) : Action W Unit := do
  Action.wait ((← read).page.customWait timeoutMs (some Wait.elementPollMs))
    (binding.locator.display ++ " to be clickable") (isClickable binding.locator)

/-- The first of some handles whose element is displayed. -/
def firstDisplayed? : List Handle → Action W (Option Handle)
  | [] => return none
  | handle :: rest => do
    if ← handle.isDisplayed then return some handle else firstDisplayed? rest

/-- Waits until the element of one of some handles is displayed, and gives the first such. -/
def waitOneOf (handles : List Handle) (timeoutMs : Option Nat) : Action W Handle := do
  if handles.isEmpty then
    throw (.page "Nothing to wait. At least one element must be passed")
  let options := (← read).page.customWait timeoutMs (some Wait.defaultPollMs)
  let (result, found) ← Action.waitKeeping options "visibility of any of the elements" none
    (firstDisplayed? handles) fun found => return found.isSome
  let _ ← result
  match found with
  | some handle => return handle
  | none => throw (.page "Could not wait for the visibility of any of the elements")

end Page
end PageObjects
