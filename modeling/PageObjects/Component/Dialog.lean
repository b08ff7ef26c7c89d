/-
  PageObjects.Component.Dialog

  The dialog that asks to confirm an action.
-/

import PageObjects.Component.Container

namespace PageObjects

variable {W : Type}

/-- A dialog with a question and two buttons. -/
structure ConfirmDialog where
  element : Handle
  body : Handle

namespace ConfirmDialog

/-- The tag of the element around the dialog. -/
def tag : String := "p-confirmdialog"

/-- The classes by which the body of a dialog is known, the newest first. -/
def bodyClasses : List String := ["p-dialog", "ui-dialog"]

/-- The first element inside `element` with one of some classes. -/
def body? (element : Handle) : List String → Action W (Option Handle)
  | [] => return none
  | className :: rest =>
    tryCatch (do return some (← element.find (.className className))) fun e =>
      if e.isNotFound then body? element rest else throw e

/-- The dialog of an element. -/
def ofElement (element : Handle) : Action W ConfirmDialog := do
  Component.requireTag element tag .confirmDialog
  match ← body? element bodyClasses with
  | some body => return { element, body }
  | none => throw (.confirmDialog
      ("no dialog body with any of the classes " ++ Text.quotedList bodyClasses))

/-- An element in the body of the dialog. -/
def part (dialog : ConfirmDialog) (locator : Locator) : Action W Handle :=
  Action.orMiss (.confirmDialog ("Cannot find " ++ locator.display ++ " in the dialog"))
    (dialog.body.find locator)

/-- The heading. -/
def title (dialog : ConfirmDialog) : Action W String := do
  (← dialog.part (.className "p-dialog-title")).text

/-- The question. -/
def message (dialog : ConfirmDialog) : Action W String := do
  (← dialog.part (.className "p-dialog-content")).text

/-- The button with a label. -/
def button (dialog : ConfirmDialog) (label : String) : Action W Handle :=
  dialog.part (.xpath (XPath.fromParent (XPath.withAttribute "button" "ng-reflect-label" label)))

/-- The button that confirms. -/
def okButton (dialog : ConfirmDialog) : Action W Handle := dialog.button "Yes"

/-- The button that cancels. -/
def cancelButton (dialog : ConfirmDialog) : Action W Handle := dialog.button "No"

/-- Confirms and waits until the loading indicators are gone. -/
def confirm (dialog : ConfirmDialog) : Action W Unit := do
  Component.clickAndSettle (← dialog.okButton) dialog.element

/-- Cancels and waits until the loading indicators are gone. -/
def cancel (dialog : ConfirmDialog) : Action W Unit := do
  Component.clickAndSettle (← dialog.cancelButton) dialog.element

end ConfirmDialog

/-- The dialog of the page. -/
def Page.confirmDialog : Action W ConfirmDialog := do
  ConfirmDialog.ofElement (← find (.tagName ConfirmDialog.tag))

end PageObjects
