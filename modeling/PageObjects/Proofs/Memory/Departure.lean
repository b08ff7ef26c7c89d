/-
  PageObjects.Proofs.Memory.Departure

  Nothing that is remembered outlasts a departure. The browser leaves a page on several
  paths: a page is opened, an address is gone to, one of several tabs is kept, and the
  last of these also happens at the end of every click. `Course` is every state of a
  test that does all this in any order, with handles and tables of any origin, while the
  browser answers anything and changes in any way.

    * `Run.departsEmpty_memoryless`: each step of an operation keeps the calls clean.
    * `Course.departsEmpty`: so does a whole test, by induction on its operations.
    * `Page.visit_memory`, `Page.visit_of_unmatched`, `Page.focus_of_few`: how opening
      and focusing end, on each of their paths.
    * `departures_in_course`: all of it, in every test.
-/

import PageObjects.Component.Dialog
import PageObjects.Component.Toast
import PageObjects.Proofs.Action.Steadfast
import PageObjects.Proofs.Page.Destination

namespace PageObjects

open PageObjects.Action

variable {W α : Type} {driver : Driver W} {page : Page} {context : Context W}
  {start run : Run W} {inv : Run W → Prop}

-- ============================================================================
-- Calls that leave the page
-- ============================================================================

/-- Since `start` calls were only added, and nothing was remembered whenever one of them was made by
    which the browser leaves what it shows. -/
def Run.DepartsEmpty (start run : Run W) : Prop :=
  ∃ made, run.transcript = made ++ start.transcript
    ∧ ∀ exchange ∈ made, exchange.call.isDeparture = true → exchange.memory = {}

theorem Run.DepartsEmpty.exchange (h : Run.DepartsEmpty start run) (driver : Driver W) {call : Call}
    (h_call : call.isDeparture = true → run.memory = {}) :
    Run.DepartsEmpty start (run.exchange driver call).2 := by
  obtain ⟨made, h_made, h_empty⟩ := h
  refine ⟨⟨call, (run.exchange driver call).1, run.memory⟩ :: made, ?_,
    List.forall_mem_cons.mpr ⟨h_call, h_empty⟩⟩
  rw [List.cons_append, ← h_made]
  rfl

/-- What an operation does besides its calls does not matter. -/
theorem Run.departsEmpty_memoryless (context : Context W) (start : Run W) :
    Memoryless context (Run.DepartsEmpty start) where
  exchange call run h_call _ h_run := by
    apply h_run.exchange
    intro h_departure
    rw [h_call] at h_departure
    cases h_departure
  act _ _ _ h_run := by
    apply h_run.exchange
    intro h_departure
    cases h_departure
  pause _ _ h_run := h_run
  newHandle _ h_run := ⟨fun _ => h_run, fun _ _ h_later => h_later⟩
  free _ := ⟨fun _ _ h_run => h_run, fun _ _ _ _ h_run => h_run⟩
  forget _ h_run := h_run
  depart _ _ _ h_memory h_run := h_run.exchange _ fun _ => h_memory
  write _ _ h_run := h_run

-- ============================================================================
-- Toasts and dialogs
-- ============================================================================

namespace Steadfast

theorem toast (h : Steadfast context inv) : Keeps context inv Page.toast := by
  refine .bind (.map (h.query _ _)) fun containers =>
    .bind (h.workable.waitOneOf (fun _ _ => trivial) _).keeps fun container => ?_
  have h_read : Keeps context inv (do
      let content ← Toast.ofMarkup (← container.outerHtml)
      return { container, content : Toast }) :=
    .bind (h.outerHtml (h.handleFree container)) fun _ => .bind (.lift _) fun _ => .pure _
  refine .bind (h.perform container _) fun id => ?_
  split
  · exact h_read
  · exact .throw_bind _ _

theorem dialogBody (h : Steadfast context inv) (element : Handle) (classes : List String) :
    Keeps context inv (ConfirmDialog.body? element classes) := by
  induction classes with
  | nil => exact .pure none
  | cons className rest ih =>
    refine .tryCatch (.map (h.workable.find element trivial _).keeps) fun e => ?_
    split
    · exact ih
    · exact .throw e

theorem confirmDialog (h : Steadfast context inv) : Keeps context inv Page.confirmDialog := by
  refine .bind (.bind (h.query _ _) fun _ => .lift _) fun element => ?_
  refine .bind (.bind (h.perform element _) fun tag => ?_) fun _ =>
    .bind (h.dialogBody element _) fun found => ?_
  · split
    · exact .pure ()
    · exact .throw _
  · split
    · exact .pure _
    · exact .throw _

end Steadfast

-- ============================================================================
-- Whole tests
-- ============================================================================

/-- The states that a test comes to from a state, by any operations in any order; meanwhile the
    browser changes in any way. -/
inductive Course (driver : Driver W) (page : Page) (start : Run W) : Run W → Prop
  | start : Course driver page start start
  | change {run : Run W} (world : W) : Course driver page start run →
      Course driver page start { run with world }
  | dropPage {run : Run W} : Course driver page start run →
      Course driver page start { run with pageDropped := true }
  | operate {run : Run W} (operation : Operation) : Course driver page start run →
      Course driver page start (operation.action ⟨driver, page⟩ run).2
  | toast {run : Run W} : Course driver page start run →
      Course driver page start (Page.toast ⟨driver, page⟩ run).2
  | confirmDialog {run : Run W} : Course driver page start run →
      Course driver page start (Page.confirmDialog ⟨driver, page⟩ run).2

/-- What is kept whatever is remembered is kept by whole tests. -/
theorem Course.keeps (h : Course driver page start run) (h_inv : Memoryless ⟨driver, page⟩ inv)
    (h_world : ∀ (run : Run W) world, inv run → inv { run with world })
    (h_drop : ∀ run : Run W, inv run → inv { run with pageDropped := true }) (h_start : inv start) :
    inv run := by
  induction h with
  | start => exact h_start
  | change world _ ih => exact h_world _ world ih
  | dropPage _ ih => exact h_drop _ ih
  | operate operation _ ih => exact Keeps.iff.mp (h_inv.operation operation) _ ih
  | toast _ ih => exact Keeps.iff.mp h_inv.toast _ ih
  | confirmDialog _ ih => exact Keeps.iff.mp h_inv.confirmDialog _ ih

theorem Course.departsEmpty (h : Course driver page start run) : Run.DepartsEmpty start run :=
  h.keeps (Run.departsEmpty_memoryless _ start) (fun _ _ h_run => h_run) (fun _ h_run => h_run)
    ⟨[], rfl, fun _ h_mem => nomatch h_mem⟩

-- ============================================================================
-- How opening and focusing end
-- ============================================================================

namespace Page

/-- An address that matches nothing ends the opening before anything is done. -/
theorem visit_of_unmatched {spec : PageSpec} {settings : Settings}
    (h_page : Page.ofSpec spec settings = .ok page) {pattern : String}
    (h : page.Unmatched pattern) (params : List (String × String)) (run : Run W) :
    ∃ message, visit (some pattern) params ⟨driver, page⟩ run
      = (.error (.pageNotOpened message), run) := by
  obtain ⟨message, h_address⟩ := address_of_unmatched h_page h params
  exact ⟨message, visit_of_error h_address run⟩

/-- The page remembers nothing after it has gone to an address, whatever comes of that. -/
theorem redirect_memory (url : String) (run : Run W) :
    (redirect url ⟨driver, page⟩ run).2.memory = {} := by
  have h_keeps : Keeps (W := W) ⟨driver, page⟩ (fun run => run.memory = {})
      (pageCall (.navigate url) "navigate") :=
    .pageCall _ fun _ h_run => h_run
  exact Keeps.iff.mp h_keeps { run with memory := {} } rfl

/-- A page that has an address to open remembers nothing when its opening ends, well or not. -/
theorem visit_memory {pattern : Option String} {params : List (String × String)} {url : String}
    (h : page.address pattern params = .ok url) (run : Run W) :
    (visit pattern params ⟨driver, page⟩ run).2.memory = {} := by
  have h_waits : Undisturbed (W := W) ⟨driver, page⟩ fun run => run.memory = {} :=
    ⟨fun _ h_run => h_run, fun _ _ h_run => h_run, fun _ _ h_run => h_run,
      fun _ _ h_run => h_run⟩
  exact visit_keeps h_waits h (redirect_memory url run)

/-- With fewer than two tabs the tabs are counted, and nothing else is done. -/
theorem focus_of_few {tabs : List String}
    (h : (driver.answer (.session .windowHandles) run.world).1 = .ok tabs)
    (h_few : tabs.length < 2) {focus : Action W Unit}
    (h_focus : focus ∈ [focusLastTab, focusFirstTab]) :
    focus ⟨driver, page⟩ run = (.ok (), (run.exchange driver (.session .windowHandles)).2) := by
  have h_tabs : (pageCall .windowHandles "window_handles" : Action W (List String))
      ⟨driver, page⟩ run = (.ok tabs, (run.exchange driver (.session .windowHandles)).2) :=
    run_pageCall_of_ok h _
  have h_either : focus = focusLastTab ∨ focus = focusFirstTab := by simpa using h_focus
  rcases tabs with _ | ⟨tab, _ | ⟨second, rest⟩⟩
  · rcases h_either with rfl | rfl <;> exact run_bind_ok h_tabs
  · rcases h_either with rfl | rfl <;> exact run_bind_ok h_tabs
  · simp only [List.length_cons] at h_few
    omega

end Page

/-- If the page was told to go to an address between two states, nothing is remembered in the second
    one. -/
def Run.EmptyIfGone (run after : Run W) : Prop :=
  ∃ made, after.transcript = made ++ run.transcript
    ∧ ((∃ exchange ∈ made, ∃ url, exchange.call = .session (.navigate url)) → after.memory = {})

theorem Page.visit_emptyIfGone (pattern : Option String) (params : List (String × String))
    (run : Run W) : run.EmptyIfGone (visit pattern params ⟨driver, page⟩ run).2 := by
  cases h_address : page.address pattern params with
  | error e =>
    rw [visit_of_error h_address]
    refine ⟨[], rfl, ?_⟩
    rintro ⟨exchange, h_mem, -⟩
    cases h_mem
  | ok url =>
    have h_made : Run.DepartsEmpty run (visit pattern params ⟨driver, page⟩ run).2 :=
      Keeps.iff.mp ((Run.departsEmpty_memoryless _ run).visit pattern params) run
        ⟨[], rfl, fun _ h_mem => nomatch h_mem⟩
    obtain ⟨made, h_transcript, -⟩ := h_made
    exact ⟨made, h_transcript, fun _ => visit_memory h_address run⟩

theorem Page.redirect_emptyIfGone (url : String) (run : Run W) :
    run.EmptyIfGone (redirect url ⟨driver, page⟩ run).2 := by
  have h_made : Run.DepartsEmpty run (redirect url ⟨driver, page⟩ run).2 :=
    Keeps.iff.mp ((Run.departsEmpty_memoryless _ run).redirect url) run
      ⟨[], rfl, fun _ h_mem => nomatch h_mem⟩
  obtain ⟨made, h_transcript, -⟩ := h_made
  exact ⟨made, h_transcript, fun _ => redirect_memory url run⟩

/-- In every test, nothing is remembered whenever the browser is told to go to an address, to go to
    another tab or to close one, and still nothing when an opening ends that has gone to an address.
    An opening that matches no address does nothing, and so does focusing with fewer than two
    tabs, but for counting them. -/
theorem departures_in_course {spec : PageSpec} {settings : Settings}
    (h_page : Page.ofSpec spec settings = .ok page) (h : Course driver page start run) :
    Run.DepartsEmpty start run
      ∧ (∀ pattern params, run.EmptyIfGone (Page.visit pattern params ⟨driver, page⟩ run).2)
      ∧ (∀ url, run.EmptyIfGone (Page.redirect url ⟨driver, page⟩ run).2)
      ∧ (∀ pattern params, page.Unmatched pattern →
        ∃ message, Page.visit (some pattern) params ⟨driver, page⟩ run
          = (.error (.pageNotOpened message), run))
      ∧ ∀ tabs, (driver.answer (.session .windowHandles) run.world).1 = .ok tabs → tabs.length < 2 →
        ∃ after, (∀ focus ∈ [Page.focusLastTab, Page.focusFirstTab],
            focus ⟨driver, page⟩ run = (.ok (), after))
          ∧ after.memory = run.memory
          ∧ after.transcript = ⟨.session .windowHandles, .ok tabs, run.memory⟩ :: run.transcript
          ∧ after.world = (driver.answer (.session .windowHandles) run.world).2 := by
  refine ⟨h.departsEmpty, fun pattern params => Page.visit_emptyIfGone pattern params run,
    fun url => Page.redirect_emptyIfGone url run,
    fun pattern params h_none => Page.visit_of_unmatched h_page h_none params run, ?_⟩
  intro tabs h_tabs h_few
  refine ⟨(run.exchange driver (.session .windowHandles)).2,
    fun focus h_focus => Page.focus_of_few h_tabs h_few h_focus, rfl, ?_, rfl⟩
  rw [← h_tabs]
  rfl

/-- A front page with a title. -/
def Browser.titled : Browser where
  nodes := [("title", { text := "Shop" })]
  document := [("h1", ["title"])]

/-- The title was found and remembered; an opening that matches nothing leaves it so, and after the
    browser was sent elsewhere it was not there when that call was made. -/
theorem departures_in_course_title : ∃ found left : Run Browser,
    Course Browser.driver Page.front { world := .titled } found
      ∧ (found.memory.cache.find? "title").isSome = true
      ∧ (∃ message, Page.visit (some "orders") [] ⟨Browser.driver, .front⟩ found
        = (.error (.pageNotOpened message), found))
      ∧ Course Browser.driver Page.front { world := .titled } left
      ∧ (left.transcript.filter fun exchange => exchange.call.isDeparture).length = 2
      ∧ Run.DepartsEmpty { world := .titled } left := by
  have h_start : Course Browser.driver Page.front { world := .titled } { world := .titled } :=
    .start
  have h_found := (h_start.operate (.onPage (.visit none []))).operate
    (.onPage (.resolveBinding (.one (.css "h1")) "title"))
  have h_left := h_found.operate (.onPage (.redirect "http://shop.local/orders"))
  obtain ⟨-, -, -, h_unmatched, -⟩ := departures_in_course ofSpec_front h_found
  have h_orders : Page.front.Unmatched "orders" := by
    intro url h_url h_occurs
    obtain rfl := List.mem_singleton.mp h_url
    rw [← Text.occursIn_iff] at h_occurs
    exact absurd h_occurs (by decide +kernel)
  exact ⟨_, _, h_found, by decide +kernel, h_unmatched "orders" [] h_orders, h_left,
    by decide +kernel, (departures_in_course ofSpec_front h_left).1⟩

end PageObjects
