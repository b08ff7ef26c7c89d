/-
  PageObjects.Component.Toast

  Toasts, the messages that go away by themselves. The markup of a toast is read
  once, while it is there, and everything is told from what was read.
-/

import PageObjects.Component.Container
import PageObjects.Markup.Document
import PageObjects.Text.Blank

namespace PageObjects

variable {W : Type}

/-- How grave a toast is. -/
inductive ToastKind where
  | error
  | info
  | success
  | warning
deriving DecidableEq, Repr

namespace ToastKind

/-- The name of a kind. -/
def name : ToastKind → String
  | .error => "error"
  | .info => "info"
  | .success => "success"
  | .warning => "warning"

/-- The class of the toasts of a kind. -/
def cssClass (kind : ToastKind) : String :=
  "adc-toast-" ++ kind.name

/-- The kind of an element, the first one whose class it has. -/
def of? (element : Markup.Element) : Option ToastKind :=
  [error, info, success, warning].find? fun kind => element.hasClass kind.cssClass

end ToastKind

/-- A toast, as it was when it was read. -/
structure Toast where
  container : Handle
  content : Markup.Element

namespace Toast

/-- The id of the element around toasts. -/
def containerId : String := "adc-toast-container"

/-- The toast in the markup of a container: the container itself or the first toast inside. -/
def ofMarkup (markup : String) : Except PageError Markup.Element := do
  let isToast (e : Markup.Element) : Bool := e.hasClass "adc-toast"
  let container ← Markup.requireElement markup
  if isToast container then return container
  match container.find? isToast with
  | some toast => return toast
  | none => .error (.toast "Cannot find toast in the container")

/-- Reads the toast in a container. -/
def ofContainer (container : Handle) : Action W Toast := do
  let id ← container.attributeValue "id"
  unless id == some containerId do
    throw (.toast ("expected the element with id " ++ containerId ++ ", got "
      ++ Text.quotedOption id))
  let content ← ofMarkup (← container.outerHtml)
  return { container, content }

/-- The kind of a toast, if it shows one. -/
def kind? (toast : Toast) : Option ToastKind :=
  ToastKind.of? toast.content

/-- The text of the first part with a class. -/
def part? (toast : Toast) (className : String) : Option String :=
  (toast.content.find? fun e => e.hasClass className).map fun e => Text.trim e.textContent

/-- The heading. -/
def title? (toast : Toast) : Option String := toast.part? "adc-toast-title"

/-- The message. -/
def message? (toast : Toast) : Option String := toast.part? "adc-toast-body"

/-- Clicks the toast away if it is still displayed. -/
def hide (toast : Toast) : Action W Unit := do
  if ← toast.container.isDisplayed then
    toast.container.click false

end Toast

namespace Page

/-- Waits for a toast and reads it. -/
def toast : Action W Toast := do
  let containers ← findAll (.id Toast.containerId)
  Toast.ofContainer (← waitOneOf containers none)

/-- Whether the next toast is of a kind. -/
def isToast (kind : ToastKind) : Action W Bool := do
  return (← toast).kind? == some kind

end Page
end PageObjects
