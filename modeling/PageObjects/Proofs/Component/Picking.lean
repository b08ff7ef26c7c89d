/-
  PageObjects.Proofs.Component.Picking

  A date picker types all or nothing. Every date is rendered before the first call is
  made, so that a date that cannot be rendered leaves the run as it was
  (`rangeText_eq`). Otherwise the panel is opened if it is hidden, and the input is
  cleared and typed into (`typeValue_types`); each of these steps may find its reference
  stale and recovers on its own, and none of them is made twice.
-/

import PageObjects.Component.DatePicker
import PageObjects.Proofs.Component.Handling
import PageObjects.Proofs.Recovery.Stumbling

namespace PageObjects

open PageObjects.Action

namespace DatePicker

-- ============================================================================
-- Rendering
-- ============================================================================

/-- The text of a moment, or of the two ends of a range; there is none if an end cannot be
    rendered. -/
def rangeText? (render : String → Moment → Option String) (format : String) (start : Moment) :
    (finish : Option Moment) → Option String
  | none => render format start
  | some moment => do return (← render format start) ++ " - " ++ (← render format moment)

/-- The error of a pattern that cannot be rendered. -/
def invalidFormat (format : String) : PageError :=
  .datePicker ("invalid format " ++ Text.quoted format)

theorem rangeText_eq (render : String → Moment → Option String) (format : String) (start : Moment)
    (finish : Option Moment) :
    rangeText render format start finish
      = match rangeText? render format start finish with
        | some text => .ok text
        | none => .error (invalidFormat format) := by
  cases h_first : render format start with
  | none =>
    have h_start : rendered render format start = .error (invalidFormat format) := by
      rw [rendered, h_first]
      rfl
    cases finish <;> simp only [rangeText, rangeText?, h_start, h_first] <;> rfl
  | some first =>
    have h_start : rendered render format start = .ok first := by rw [rendered, h_first]
    cases finish with
    | none =>
      simp only [rangeText, rangeText?, h_start, h_first]
      rfl
    | some moment =>
      cases h_last : render format moment <;>
        simp only [rangeText, rangeText?, rendered, h_first, h_last] <;> rfl

-- ============================================================================
-- Typing
-- ============================================================================

variable {W : Type} {context : Context W} {view : W → Browser} {keep : W → Prop} {run : Run W}
  {picker : DatePicker} {input panel : String}

/-- The input and the panel of a picker are in their places, and the input is displayed and
    enabled. -/
structure Usable (view : W → Browser) (keep : W → Prop) (picker : DatePicker) (run : Run W)
    (input panel : String) : Prop where
  ready : run.Ready keep
  names_input : run.Names view picker.input input
  names_panel : run.Names view picker.panel panel
  canClick : (view run.world).CanClick input

/-- A text was typed in the place of the value of the input; the input was clicked once if the
    panel was hidden, and nothing else was clicked. -/
structure Typed (input panel text : String) (stage browser : Browser) : Prop where
  value : (browser.node input).attributes.find? "value" = some text
  clicks : ∀ name, (browser.node name).clicks = (stage.node name).clicks
    + if name = input ∧ (stage.node panel).isDisplayed = false then 1 else 0

/-- The panel is opened by one click, if it is hidden. -/
theorem showPanel_moves (h_falters : context.driver.Falters view keep)
    (h_usable : picker.Usable view keep run input panel) :
    ∃ shown, picker.showPanel context run = (.ok (), shown)
      ∧ run.Moves view keep (fun stage browser => stage.SameFrame browser
          ∧ ∀ name, (browser.node name).clicks = (stage.node name).clicks
            + if name = input ∧ (stage.node panel).isDisplayed = false then 1 else 0) shown := by
  have h_quiet := h_falters.quiet run.world h_usable.ready.kept
  have h_visible : ∃ seen, picker.isVisible context run
        = (.ok ((view run.world).node panel).isDisplayed, seen)
      ∧ run.Moves view keep Browser.Looked seen :=
    Handle.isDisplayed_moves h_falters h_usable.ready h_usable.names_panel
  obtain ⟨seen, h_visible, h_moves⟩ := h_visible
  cases h_displayed : ((view run.world).node panel).isDisplayed with
  | true =>
    rw [h_displayed] at h_visible
    refine ⟨seen, by rw [showPanel, run_bind_ok h_visible]; rfl, h_moves.weaken fun h_looked => ?_⟩
    refine ⟨h_looked.sameFrame, fun name => ?_⟩
    simp [h_looked.node_eq, h_displayed]
  | false =>
    rw [h_displayed] at h_visible
    have h_can : (view seen.world).CanClick input := by
      rw [Browser.CanClick, h_moves.world.node_eq]
      exact h_usable.canClick
    obtain ⟨clicked, h_click, h_moves'⟩ := Handle.click_moves h_falters h_moves.ready
      (h_moves.names h_moves.world.sameFrame h_usable.names_input) h_can
    refine ⟨clicked, by rw [showPanel, run_bind_ok h_visible]; exact h_click,
      (h_moves.look_act h_moves').weaken fun h_acted => ?_⟩
    refine ⟨h_acted.sameFrame h_quiet, fun name => ?_⟩
    simp [h_acted.clicks_eq, h_displayed]

/-- A text is typed in the place of the value, whichever references are stale. -/
theorem typeValue_types (h_falters : context.driver.Falters view keep)
    (h_usable : picker.Usable view keep run input panel) (text : String) :
    ∃ after, picker.typeValue text context run = (.ok (), after)
      ∧ Typed input panel text (view run.world) (view after.world) := by
  obtain ⟨shown, h_shown, h_moves⟩ := showPanel_moves h_falters h_usable
  have h_input := h_moves.names h_moves.world.1 h_usable.names_input
  obtain ⟨cleared, h_cleared, h_moves'⟩ :=
    Handle.clear_moves h_falters h_moves.ready h_input
  have h_quiet := h_falters.quiet shown.world h_moves.ready.kept
  obtain ⟨typed, h_typed, h_moves''⟩ := Handle.sendKeys_moves h_falters h_moves'.ready
    (h_moves'.names (h_moves'.world.sameFrame h_quiet) h_input) text
  refine ⟨typed, ?_, ?_, fun name => ?_⟩
  · rw [typeValue, run_bind_ok h_shown, run_bind_ok h_cleared]
    exact h_typed
  · rw [h_moves''.world.value_of_sendKeys, h_moves'.world.value_of_clear, Option.getD_some,
      String.empty_append]
  · rw [h_moves''.world.clicks_eq, h_moves'.world.clicks_eq, h_moves.world.2]
    rfl

-- ============================================================================
-- All or nothing
-- ============================================================================

/-- `typing` types `text?` into the input of the picker. If there is no text, it complains about
    the format and makes no call. If there is one, it types the whole text, on any browser that
    falters. -/
structure TypesAllOrNothing (picker : DatePicker) (typing : (W : Type) → Action W Unit)
    (format : String) (text? : Option String) : Prop where
  nothing : text? = none → ∀ (W : Type) (context : Context W) (run : Run W),
    typing W context run = (.error (invalidFormat format), run)
  all : ∀ text, text? = some text → ∀ (W : Type) (context : Context W) (view : W → Browser)
    (keep : W → Prop) (run : Run W) (input panel : String),
    context.driver.Falters view keep → picker.Usable view keep run input panel →
    ∃ after, typing W context run = (.ok (), after)
      ∧ Typed input panel text (view run.world) (view after.world)

theorem setRange_typesAllOrNothing (picker : DatePicker)
    (render : String → Moment → Option String) (format : String) (start : Moment)
    (finish : Option Moment) :
    picker.TypesAllOrNothing (fun _ => picker.setRange render format start finish) format
      (rangeText? render format start finish) where
  nothing h_none W context run := by
    have h_text : (liftM (rangeText render format start finish) : Action W String) context run
        = (.error (invalidFormat format), run) := by
      rw [run_lift, rangeText_eq, h_none]
    rw [setRange, run_bind, h_text]
  all text h_some W context view keep run input panel h_falters h_usable := by
    have h_text : (liftM (rangeText render format start finish) : Action W String) context run
        = (.ok text, run) := by
      rw [run_lift, rangeText_eq, h_some]
    rw [setRange, run_bind_ok h_text]
    exact typeValue_types h_falters h_usable text

/-- Dates and times are typed all or nothing, also if they are rendered in any other way. -/
theorem typesAllOrNothing (picker : DatePicker) (start : Moment) (finish : Option Moment) :
    (∀ (render : String → Moment → Option String) (format : String),
      picker.TypesAllOrNothing (fun _ => picker.setRange render format start finish) format
        (rangeText? render format start finish))
    ∧ ∀ format : Option String,
      picker.TypesAllOrNothing (fun _ => picker.setDate start finish format)
        (format.getD dateFormat)
        (rangeText? Calendar.render? (format.getD dateFormat) start finish)
      ∧ picker.TypesAllOrNothing (fun _ => picker.setTime start finish format)
        (format.getD timeFormat)
        (rangeText? Calendar.render? (format.getD timeFormat) start finish) :=
  ⟨fun render format => setRange_typesAllOrNothing picker render format start finish,
    fun _ => ⟨setRange_typesAllOrNothing picker _ _ start finish,
      setRange_typesAllOrNothing picker _ _ start finish⟩⟩

end DatePicker

/-- A page with a date input that shows an earlier value, and a panel that is hidden until the input
    is clicked. Some of the next calls to each of its nodes find it stale. -/
def Browser.withCalendar (staleCalls : Nat) : Browser where
  nodes := [
    ("when", { tag := "input", attributes := [("value", "05-17-2023")], staleCalls,
               onClick := [.setDisplayed "panel" true] }),
    ("picker", { tag := DatePicker.tag, children := [(DatePicker.panelClass, ["panel"])],
                 staleCalls }),
    ("panel", { isDisplayed := false, staleCalls })]
  document := [("//input", ["when"]), ("//picker", ["picker"])]

namespace DatePicker

/-- A handle that was found for no slot. -/
def foundBy (locator : Locator) (id : Nat) : Link where
  id := id
  locator := locator
  slot := none
  memoizes := false
  position := none

/-- The picker of that page. -/
def onCalendar : DatePicker where
  input := ⟨foundBy (.xpath "//input") 0, []⟩
  component := ⟨foundBy (.xpath "//picker") 1, []⟩
  panel := ⟨foundBy (.className panelClass) 2, [foundBy (.xpath "//picker") 1]⟩

/-- A run in which the elements of the picker were found. -/
def calendarRun {W : Type} (world : W) : Run W where
  world := world
  references := [(0, ⟨"when", 0⟩), (1, ⟨"picker", 0⟩), (2, ⟨"panel", 0⟩)]
  nextId := 3

/-- No call is made for a range that cannot be rendered. One that can be rendered is typed, if every
    reference is found stale once and also if every node is. -/
theorem typesAllOrNothing_calendar :
    onCalendar.setDate ⟨⟨2024, 1, 2⟩, none⟩ (some ⟨⟨2024, 1, 31⟩, none⟩) (some "%Q")
        ⟨Browser.driver, .bare⟩ (calendarRun (Browser.withCalendar 1))
      = (.error (invalidFormat "%Q"), calendarRun (Browser.withCalendar 1))
    ∧ (∃ after, onCalendar.setDate ⟨⟨2024, 1, 2⟩, none⟩ (some ⟨⟨2024, 1, 31⟩, none⟩) none
          ⟨Faltering.driver fun _ => true, .bare⟩
          (calendarRun { browser := Browser.withCalendar 0 }) = (.ok (), after)
        ∧ (after.world.browser.node "when").attributes.find? "value"
          = some "01-02-2024 - 01-31-2024"
        ∧ (after.world.browser.node "when").clicks = 1)
    ∧ ∃ after, onCalendar.setDate ⟨⟨2024, 1, 2⟩, none⟩ (some ⟨⟨2024, 1, 31⟩, none⟩) none
          ⟨Browser.driver, .bare⟩ (calendarRun (Browser.withCalendar 1)) = (.ok (), after)
        ∧ (after.world.node "when").attributes.find? "value" = some "01-02-2024 - 01-31-2024"
        ∧ (after.world.node "when").clicks = 1 := by
  have h_types := typesAllOrNothing onCalendar ⟨⟨2024, 1, 2⟩, none⟩ (some ⟨⟨2024, 1, 31⟩, none⟩)
  refine ⟨(h_types.2 (some "%Q")).1.nothing (by decide +kernel) Browser _ _, ?_, ?_⟩
  · have h_usable : onCalendar.Usable Faltering.browser (fun f => f.browser.Quiet)
        (calendarRun { browser := Browser.withCalendar 0 }) "when" "panel" := by
      refine ⟨⟨Browser.quiet_of_forall (by decide), rfl⟩, ?_, ?_, by decide⟩
      · exact ⟨⟨by decide, by decide⟩, rfl⟩
      · exact ⟨⟨by decide, by decide, by decide, by decide⟩, rfl⟩
    obtain ⟨after, h_typed, h_value, h_clicks⟩ := (h_types.2 none).1.all
      "01-02-2024 - 01-31-2024" (by decide +kernel) Faltering
      ⟨Faltering.driver fun _ => true, .bare⟩ _ _ _ _ _ (Faltering.driver_falters _) h_usable
    exact ⟨after, h_typed, h_value, (h_clicks "when").trans (by decide)⟩
  · have h_usable : onCalendar.Usable Browser.steady Browser.Unsteady
        (calendarRun (Browser.withCalendar 1)) "when" "panel" := by
      refine ⟨⟨Browser.unsteady_of_forall (by decide), rfl⟩, ?_, ?_, by decide⟩
      · exact ⟨⟨by decide, by decide⟩, rfl⟩
      · exact ⟨⟨by decide, by decide, by decide, by decide⟩, rfl⟩
    obtain ⟨after, h_typed, h_value, h_clicks⟩ := (h_types.2 none).1.all
      "01-02-2024 - 01-31-2024" (by decide +kernel) Browser ⟨Browser.driver, .bare⟩ _ _ _ _ _
      Browser.driver_falters_once h_usable
    have h_once : (after.world.steady.node "when").clicks = 1 :=
      (h_clicks "when").trans (by decide)
    rw [Browser.node_steady] at h_value h_once
    exact ⟨after, h_typed, h_value, h_once⟩

end DatePicker

end PageObjects
