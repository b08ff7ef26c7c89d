/-
  PageObjects.Page.Recovery

  Calls to an element through its handle. If the reference of the handle has gone
  stale, the query that found the element is made again, under the element around
  it if it was found there, and the call is made once more; that recovery may have
  to recover the elements around it in the same way. `Handle.request` recurs on the
  chain of these elements, so it always comes to an end.
-/

import PageObjects.Page.Action

namespace PageObjects

variable {W : Type}

namespace Link

/-- The current reference of a handle. -/
def reference (link : Link) : Action W Reference := do
  return ((← get).references.find? link.id).getD default

/-- Gives a handle a new reference. -/
def setReference (link : Link) (reference : Reference) : Action W Unit :=
  modify fun run => { run with references := run.references.put link.id reference }

/-- Fails if the page is gone. -/
def requirePage (link : Link) : Action W Unit := do
  if (← get).pageDropped then
    throw (.page ("page of " ++ link.context ++ " was dropped"))

/-- The match that the handle stands for, among all matches of its query. -/
def pick (link : Link) (position : Nat) (found : List Reference) : Except PageError Reference :=
  match found[position]? with
  | some reference => .ok reference
  | none => .error (.elementNotFound (link.locator.display ++ " [" ++ toString position ++ "]"))

/-- Makes the query of the handle again, given how to make it for the first match and how to make
    it for all of them. -/
def refind (link : Link) (first : Action W Reference) (all : Action W (List Reference)) :
    Action W Reference :=
  match link.position with
  | none => first
  | some position => do link.pick position (← all)

end Link

namespace Handle

/-- Puts a handle that memoizes itself into the place of its slot. -/
def memoize (handle : Handle) : Action W Unit := do
  if let some slot := handle.own.slot then
    if handle.own.memoizes then
      Action.remember slot (.elements (.one handle))

/-- Finds the element of a handle again. -/
def reload (handle : Handle) (refind : Action W Reference) : Action W Unit := do
  handle.own.requirePage
  handle.own.setReference (← refind)
  handle.memoize

/-- Makes a call to the element of a handle, and once more after a reload if it was stale. -/
def recovering (handle : Handle) (refind : Action W Reference) (operation : String)
    (call : ElementCall) : Action W call.Answer := do
  match ← Action.ask (.element (← handle.own.reference) call) with
  | .error .stale =>
    handle.reload refind
    let again ← Action.ask (.element (← handle.own.reference) call)
    Action.answered handle.own.context operation again
  | first => Action.answered handle.own.context operation first

/-- The operation that fails when an element cannot be found again. -/
def reloading : String := "reload"

/-- Makes a call to the element of a handle, with recovery along the chain of elements that it was
    found under. -/
def request : (own : Link) → (ancestors : List Link) → (operation : String) → (call : ElementCall) →
    Action W call.Answer
  | own, [], operation, call =>
    recovering ⟨own, []⟩
      (own.refind (Action.sessionCall (.find own.locator) own.context reloading)
        (Action.sessionCall (.findAll own.locator) own.context reloading))
      operation call
  | own, parent :: rest, operation, call =>
    recovering ⟨own, parent :: rest⟩
      (own.refind (request parent rest reloading (.find own.locator))
        (request parent rest reloading (.findAll own.locator)))
      operation call

/-- Makes a call to the element of a handle. -/
def perform (handle : Handle) (call : ElementCall) : Action W call.Answer :=
  request handle.own handle.ancestors call.operation call

/-! ## New handles -/

/-- A new handle for a reference. -/
def register (locator : Locator) (slot : Option String) (memoizes : Bool) (position : Option Nat)
    (ancestors : List Link) (reference : Reference) : Action W Handle := do
  let own : Link := { id := (← get).nextId, locator, slot, memoizes, position }
  modify fun run => { run with nextId := run.nextId + 1 }
  own.setReference reference
  return ⟨own, ancestors⟩

/-- New handles for the matches of a query, the first of them at `position`. -/
def registerAll (locator : Locator) (slot : Option String) (ancestors : List Link) :
    (position : Nat) → List Reference → Action W (List Handle)
  | _, [] => return []
  | position, reference :: rest => do
    let handle ← register locator slot false (some position) ancestors reference
    return handle :: (← registerAll locator slot ancestors (position + 1) rest)

end Handle

end PageObjects
