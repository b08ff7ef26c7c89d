/-
  PageObjects.Component.DatePicker

  A date picker and the input that it fills. Dates are typed into the input, and
  confirmed in the panel of the picker. Nothing is typed unless every date can be
  rendered.
-/

import PageObjects.Calendar.Format
import PageObjects.Component.Container

namespace PageObjects

variable {W : Type}

/-- A date picker. -/
structure DatePicker where
  input : Handle
  component : Handle
  panel : Handle

namespace DatePicker

/-- The pattern for days where none is given. -/
def dateFormat : String := "%m-%d-%Y"

/-- The pattern for days with times where none is given. -/
def timeFormat : String := "%d/%m/%Y %H:%M"

/-- The tag of the picker. -/
def tag : String := "ngx-daterangepicker-material"

/-- The class of the panel. -/
def panelClass : String := "md-drppicker"

/-- Finds a part of the picker. -/
def part (element : Handle) (locator : Locator) (what : String) : Action W Handle :=
  Action.orMiss (.datePicker ("Cannot find " ++ what)) (element.find locator)

/-- The picker beside an input. -/
def ofInput (input : Handle) : Action W DatePicker := do
  let parent ← part input (.xpath "./..") "the input's parent"
  let component ← part parent (.xpath (XPath.fromParent tag)) tag
  let panel ← part component (.className panelClass) panelClass
  return { input, component, panel }

/-- Whether the panel is open. -/
def isVisible (picker : DatePicker) : Action W Bool :=
  picker.panel.isDisplayed

/-- Opens the panel. -/
def showPanel (picker : DatePicker) : Action W Unit := do
  unless ← picker.isVisible do picker.input.click false

/-- A part of the open panel. -/
def panelPart (picker : DatePicker) (xpath what : String) : Action W Handle := do
  picker.component.own.requirePage
  Page.checkOpened
  part picker.component (.xpath xpath) what

/-- The button that confirms. -/
def okButton (picker : DatePicker) : Action W Handle :=
  picker.panelPart ".//button[contains(text(), \"ok\") or contains(text(), \"OK\")]"
    "the OK button"

/-- The highlighted day. -/
def activeDay (picker : DatePicker) : Action W Handle :=
  picker.panelPart ".//td[contains(@class, \"active\")]" "the active day"

/-! ## Values -/

/-- A moment by a pattern. -/
def rendered (render : String → Moment → Option String) (format : String) (moment : Moment) :
    Except PageError String :=
  match render format moment with
  | some text => .ok text
  | none => .error (.datePicker ("invalid format " ++ Text.quoted format))

/-- A moment, or the two ends of a range, by a pattern. -/
def rangeText (render : String → Moment → Option String) (format : String) (start : Moment)
    (finish : Option Moment) : Except PageError String := do
  let first ← rendered render format start
  match finish with
  | none => return first
  | some moment => return first ++ " - " ++ (← rendered render format moment)

/-- Types a value in the place of the present one. -/
def typeValue (picker : DatePicker) (value : String) : Action W Unit := do
  picker.showPanel
  picker.input.clear
  picker.input.sendKeys value

/-- Types a moment, or a range. -/
def setRange (picker : DatePicker) (render : String → Moment → Option String) (format : String)
    (start : Moment) (finish : Option Moment) : Action W Unit := do
  picker.typeValue (← rangeText render format start finish)

/-- Types a day, or a range of days. -/
def setDate (picker : DatePicker) (start : Moment) (finish : Option Moment)
    (format : Option String) : Action W Unit :=
  picker.setRange Calendar.render? (format.getD dateFormat) start finish

/-- Types a time, or a range of times. -/
def setTime (picker : DatePicker) (start : Moment) (finish : Option Moment)
    (format : Option String) : Action W Unit :=
  picker.setRange Calendar.render? (format.getD timeFormat) start finish

/-- Types a day, or a range of days, and confirms. A picker for single days may lack the button;
    then the highlighted day is clicked. -/
def setDateAndApply (picker : DatePicker) (start : Moment) (finish : Option Moment)
    (format : Option String) : Action W Unit := do
  picker.setDate start finish format
  let button ← tryCatch (do return some (← picker.okButton)) fun e =>
    match e, finish with
    | .datePicker _, none => return none
    | e, _ => throw e
  match button with
  | some button => button.click false
  | none => (← picker.activeDay).click false

/-- Types a time, or a range of times, and confirms. -/
def setTimeAndApply (picker : DatePicker) (start : Moment) (finish : Option Moment)
    (format : Option String) : Action W Unit := do
  picker.setTime start finish format
  (← picker.okButton).click false

end DatePicker
end PageObjects
