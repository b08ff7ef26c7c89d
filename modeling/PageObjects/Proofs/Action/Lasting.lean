/-
  PageObjects.Proofs.Action.Lasting

  Invariants of whole operations. A page leaves what its browser shows in two places
  only, when it goes to an address and when it keeps one of several tabs, and it forgets
  everything first. A `Lasting` invariant is kept by that. So it is kept by everything
  that a test does without looking an element up, as long as the calls through the
  handle at hand keep it. Which handles these are may be said by a property: they are
  `Workable` if all that is found inside of one has the property as well.

    * `Lasting.redirect`, `Lasting.keepTab`: the two places.
    * `Lasting.handleOperation`, `Lasting.pageOperation`: what a test does without a
      lookup.
    * `Workable.handleOperation`, `Workable.tableOperation`: what a test does with a
      handle, and with a table.
-/

import PageObjects.Proofs.Action.Operation
import PageObjects.Proofs.Action.Steady

namespace PageObjects

open PageObjects.Action

/-- The operations on a page that look nothing up on it and remember nothing. -/
def PageOperation.isAside : PageOperation → Bool
  | resolve _ | element _ | elementList _ | resolveBinding _ _ | reload _ | find _ | findAll _
  | findNamed _ | groupBinding _ _ | groupMember _ _ | groupRelative _ _ | table _
  | nestedTable _ _ => false
  | _ => true

/-- The operations on a handle that look nothing up inside. -/
def HandleOperation.isAside : HandleOperation → Bool
  | find _ | findAll _ => false
  | _ => true

variable {W α : Type} {context : Context W} {inv : Run W → Prop}

-- ============================================================================
-- What operations give
-- ============================================================================

/-- Nothing is held of an action that gives nothing. -/
theorem givesNothing_yields {action : Action W α} (h : Keeps context inv action) :
    Yields context inv (givesNothing action) fun held => held = {} :=
  Keeps.bind_yields h fun _ => .pure rfl

/-- Handles with a property are held, and no table. -/
structure Held.Handles (good : Handle → Prop) (held : Held) : Prop where
  handles : ∀ handle ∈ held.handles, good handle
  tables : held.tables = []

theorem Held.handles_of_eq {good : Handle → Prop} {held : Held} (h : held = {}) :
    held.Handles good := by
  subst h
  exact ⟨fun _ h_mem => (nomatch h_mem), rfl⟩

section gives

variable {good : Handle → Prop}

theorem givesHandle_yields {action : Action W Handle} (h : Yields context inv action good) :
    Yields context inv (givesHandle action) (Held.Handles good) :=
  h.map fun _ h_handle => ⟨List.forall_mem_singleton.mpr h_handle, rfl⟩

theorem givesHandles_yields {action : Action W (List Handle)}
    (h : Yields context inv action fun handles => ∀ handle ∈ handles, good handle) :
    Yields context inv (givesHandles action) (Held.Handles good) :=
  h.map fun _ h_handles => ⟨h_handles, rfl⟩

theorem givesResolved_yields {action : Action W Resolved}
    (h : Yields context inv action fun resolved => ∀ handle ∈ resolved.toList, good handle) :
    Yields context inv (givesResolved action) (Held.Handles good) :=
  h.map fun _ h_handles => ⟨h_handles, rfl⟩

end gives

-- ============================================================================
-- Departures
-- ============================================================================

/-- The invariant also allows that everything is forgotten, and that the browser leaves the page
    while nothing is remembered. -/
structure Lasting (context : Context W) (inv : Run W → Prop) : Prop
    extends Passive context inv where
  forget : ∀ run : Run W, inv run → inv { run with memory := {} }
  depart : ∀ (call : SessionCall) (run : Run W), (Call.session call).isDeparture = true →
    run.memory = {} → inv run → inv (run.exchange context.driver (.session call)).2

namespace Lasting

/-- While nothing is remembered, a call by which the browser leaves the page keeps that too. -/
theorem departure (h : Lasting context inv) {call : SessionCall} (operation : String)
    (h_call : (Call.session call).isDeparture = true) :
    Keeps context (fun run => inv run ∧ run.memory = {}) (pageCall call operation) := by
  apply Keeps.pageCall
  intro run h_run
  exact ⟨h.depart call run h_call h_run.2 h_run.1, h_run.2⟩

/-- What is done after everything was forgotten keeps the invariant. -/
theorem forgotten (h : Lasting context inv) {action : Action W α}
    (h_action : Keeps context (fun run => inv run ∧ run.memory = {}) action) :
    Keeps context inv (do forgetAll; action) := by
  have h_forget : Triple context inv (forgetAll : Action W Unit)
      (fun _ run => inv run ∧ run.memory = {}) fun _ => inv := by
    intro run h_run
    exact ⟨h.forget run h_run, rfl⟩
  have h_rest : Triple context (fun run => inv run ∧ run.memory = {}) action
      (fun _ => inv) fun _ => inv :=
    Triple.weaken h_action (fun _ h_run => h_run) (fun _ _ h_run => h_run.1)
      fun _ _ h_run => h_run.1
  exact Triple.bind h_forget fun _ => h_rest

theorem redirect (h : Lasting context inv) (url : String) :
    Keeps context inv (Page.redirect url) :=
  h.forgotten (h.departure _ rfl)

theorem closeTabs (h : Lasting context inv) (tabs : List String) :
    Keeps context (fun run => inv run ∧ run.memory = {}) (Page.closeTabs tabs) := by
  induction tabs with
  | nil => exact .pure ()
  | cons tab rest ih =>
    exact .bind (h.departure _ rfl) fun _ => .bind (h.departure _ rfl) fun _ => ih

theorem keepTab (h : Lasting context inv) (kept : String) (others : List String) :
    Keeps context inv (Page.keepTab kept others) :=
  h.forgotten (.bind (h.closeTabs others) fun _ => h.departure _ rfl)

theorem focusLastTab (h : Lasting context inv) : Keeps context inv Page.focusLastTab := by
  refine .bind (h.pageCall _ rfl) fun tabs => ?_
  split
  · exact h.keepTab _ _
  · exact .pure ()

theorem focusFirstTab (h : Lasting context inv) : Keeps context inv Page.focusFirstTab := by
  refine .bind (h.pageCall _ rfl) fun tabs => ?_
  split
  · exact h.keepTab _ _
  · exact .pure ()

theorem visit (h : Lasting context inv) (pattern : Option String)
    (params : List (String × String)) : Keeps context inv (Page.visit pattern params) := by
  refine .bind .read fun _ => .bind (.lift _) fun url => .bind (h.redirect url) fun _ => ?_
  exact .bind (Page.waitReady_keeps h.undisturbed) fun _ => Page.waitLoaders_keeps h.undisturbed

-- ============================================================================
-- Operations on handles
-- ============================================================================

section handles

variable {handle : Handle}

theorem waitClickable (h : Lasting context inv) (h_displayed : Keeps context inv handle.isDisplayed)
    (h_enabled : Keeps context inv handle.isEnabled) : Keeps context inv handle.waitClickable := by
  refine .bind (Steady.requirePage _) fun _ => h.waitAsSet _ (.bind h_displayed fun displayed => ?_)
  split
  · exact h_enabled
  · exact .pure false

theorem click (h : Lasting context inv)
    (h_perform : ∀ call, Keeps context inv (handle.perform call)) (focusOpenedTab : Bool) :
    Keeps context inv (handle.click focusOpenedTab) := by
  refine .bind (h.waitClickable (h_perform _) (h_perform _)) fun _ =>
    .bind (h_perform _) fun _ => ?_
  split
  · exact .bind (Steady.requirePage _) fun _ => h.focusLastTab
  · exact .pure ()

theorem clickAndWait (h : Lasting context inv)
    (h_perform : ∀ call, Keeps context inv (handle.perform call)) (focusOpenedTab : Bool) :
    Keeps context inv (handle.clickAndWait focusOpenedTab) :=
  .bind (h.click h_perform focusOpenedTab) fun _ => .bind (Steady.requirePage _) fun _ =>
    Page.waitLoaders_keeps h.undisturbed

/-- What a test does with a handle without a lookup inside, where each call through the handle keeps
    the invariant. -/
theorem handleOperation (h : Lasting context inv)
    (h_perform : ∀ call, Keeps context inv (handle.perform call)) {operation : HandleOperation}
    (h_aside : operation.isAside = true) :
    Yields context inv (operation.action handle) fun held => held = {} := by
  cases operation with
  | call request => exact givesNothing_yields (h_perform request)
  | isStale => exact givesNothing_yields (h.isStale handle)
  | waitClickable => exact givesNothing_yields (h.waitClickable (h_perform _) (h_perform _))
  | waitVisible =>
    exact givesNothing_yields
      (.bind (Steady.requirePage _) fun _ => h.waitAsSet _ (h_perform _))
  | click focusOpenedTab => exact givesNothing_yields (h.click h_perform focusOpenedTab)
  | clickAndWait focusOpenedTab =>
    exact givesNothing_yields (h.clickAndWait h_perform focusOpenedTab)
  | scrollTo vertical horizontal =>
    exact givesNothing_yields
      (.bind (Steady.reference _) fun _ => .bind (h.pageCall _ rfl) fun _ => .pure _)
  | _ => cases h_aside

theorem firstDisplayed? {handles : List Handle}
    (h_perform : ∀ handle ∈ handles, ∀ call, Keeps context inv (handle.perform call)) :
    Yields context inv (Page.firstDisplayed? handles) fun found =>
      ∀ handle ∈ found, handle ∈ handles := by
  induction handles with
  | nil => exact .pure fun _ h_mem => nomatch h_mem
  | cons first rest ih =>
    obtain ⟨h_first, h_rest⟩ := List.forall_mem_cons.mp h_perform
    refine Keeps.bind_yields (h_first _) fun displayed => ?_
    split
    · exact .pure fun handle h_mem => Option.some.inj h_mem ▸ List.mem_cons_self
    · exact (ih h_rest).weaken fun _ h_found handle h_mem =>
        List.mem_cons_of_mem _ (h_found handle h_mem)

/-- A wait for one of some handles gives one of them. -/
theorem waitOneOf (h : Lasting context inv) {handles : List Handle}
    (h_perform : ∀ handle ∈ handles, ∀ call, Keeps context inv (handle.perform call))
    (timeoutMs : Option Nat) :
    Yields context inv (Page.waitOneOf handles timeoutMs) fun handle => handle ∈ handles := by
  have h_wait : ∀ options waitedFor, Yields context inv
      (waitKeeping options waitedFor none (Page.firstDisplayed? handles)
        fun found => return found.isSome) fun out => ∀ handle ∈ out.2, handle ∈ handles := by
    intro options waitedFor
    exact Yields.waitKeeping h.pause (fun _ h_mem => nomatch h_mem) (firstDisplayed? h_perform)
      fun _ _ => .pure _
  rw [Page.waitOneOf]
  split
  · exact .bind (.throw _) fun _ (h_never : False) => h_never.elim
  · refine Keeps.bind_yields .read fun _ => (h_wait _ _).bind fun out h_found =>
      Keeps.bind_yields (.lift _) fun _ => ?_
    split
    · rename_i handle h_out
      exact .pure (h_found handle h_out)
    · exact .throw _

end handles

-- ============================================================================
-- Operations on the page
-- ============================================================================

theorem isVisible (h : Lasting context inv) (locator : Locator) :
    Keeps context inv (Page.isVisible locator) :=
  .bind .read fun _ => .bind (h.sessionCall _ _ rfl) fun _ => .bind (h.ask rfl rfl) fun _ =>
    .answered _ _ _

theorem isClickable (h : Lasting context inv) (locator : Locator) :
    Keeps context inv (Page.isClickable locator) := by
  refine .bind .read fun _ => .bind (h.sessionCall _ _ rfl) fun _ => .bind (h.ask rfl rfl) fun _ =>
    .bind (.answered _ _ _) fun displayed => ?_
  split
  · exact .bind (h.ask rfl rfl) fun _ => .answered _ _ _
  · exact .pure false

theorem deleteMatching (h : Lasting context inv) (isWanted : String → Bool)
    (missing : PageError) (key : String) (cookies : List Cookie) :
    Keeps context inv (Page.deleteMatching isWanted missing key cookies) := by
  induction cookies with
  | nil => exact .pure ()
  | cons cookie rest ih =>
    rw [Page.deleteMatching]
    split
    · exact .throw missing
    · split
      · split
        · exact .bind (h.pageCall _ rfl) fun _ => ih
        · exact ih
      · exact ih

/-- What a test does with the page without looking an element up. -/
theorem pageOperation (h : Lasting context inv) {operation : PageOperation}
    (h_aside : operation.isAside = true) :
    Yields context inv operation.action fun held => held = {} := by
  cases operation with
  | visit pattern params => exact givesNothing_yields (h.visit pattern params)
  | redirect url => exact givesNothing_yields (h.redirect url)
  | forgetAll => exact givesNothing_yields (.modifyMemory h.forget)
  | focusLastTab => exact givesNothing_yields h.focusLastTab
  | focusFirstTab => exact givesNothing_yields h.focusFirstTab
  | openedUrl => exact givesNothing_yields (h.pageCall _ rfl)
  | checkOpened => exact givesNothing_yields h.checkOpened
  | openedId =>
    exact givesNothing_yields
      (.bind h.checkOpened fun _ => .bind (h.pageCall _ rfl) fun _ => .pure _)
  | openedParam name =>
    exact givesNothing_yields
      (.bind h.checkOpened fun _ => .bind (h.pageCall _ rfl) fun _ => .pure _)
  | waitReady => exact givesNothing_yields (Page.waitReady_keeps h.undisturbed)
  | waitPageLoader =>
    exact givesNothing_yields (.bind .read fun _ => Page.waitInvisible_keeps h.undisturbed _)
  | waitTableLoader =>
    exact givesNothing_yields (.bind .read fun _ => Page.waitInvisible_keeps h.undisturbed _)
  | waitDialog => exact givesNothing_yields (h.waitAsSet _ (h.isVisible _))
  | waitModal =>
    apply givesNothing_yields
    refine .bind .read fun _ => ?_
    dsimp only
    split
    · exact .pure ()
    · exact h.waitAsSet _ (h.isVisible _)
  | waitAccessible binding timeoutMs =>
    exact givesNothing_yields (.bind .read fun _ => .wait (h.isVisible _) h.pause)
  | waitClickable binding timeoutMs =>
    exact givesNothing_yields (.bind .read fun _ => .wait (h.isClickable _) h.pause)
  | deleteCookies filter key =>
    apply givesNothing_yields
    rw [Page.deleteCookies]
    split
    · exact .throw _
    · exact .bind (h.pageCall _ rfl) fun _ => h.deleteMatching _ _ _ _
  | deleteAllCookies => exact givesNothing_yields (h.pageCall _ rfl)
  | deleteLocalStorage key =>
    apply givesNothing_yields
    rw [Page.deleteLocalStorage]
    split <;> exact .bind (h.pageCall _ rfl) fun _ => .pure ()
  | _ => cases h_aside

end Lasting

-- ============================================================================
-- Handles that a test works with
-- ============================================================================

/-- Every call through a good handle keeps the invariant, and what is found inside of one is
    good. -/
structure Workable (context : Context W) (inv : Run W → Prop) (good : Handle → Prop) : Prop
    extends Lasting context inv where
  perform : ∀ handle, good handle → ∀ call, Keeps context inv (handle.perform call)
  find : ∀ handle, good handle → ∀ locator, Yields context inv (handle.find locator) good
  findAll : ∀ handle, good handle → ∀ locator,
    Yields context inv (handle.findAll locator) fun found => ∀ handle ∈ found, good handle

namespace Workable

variable {good : Handle → Prop} {handle : Handle} {table : Table}

theorem outerHtml (h : Workable context inv good) (h_good : good handle) :
    Keeps context inv handle.outerHtml :=
  .bind (h.perform handle h_good _) fun _ => .pure _

/-- What a test does with a handle. -/
theorem handleOperation (h : Workable context inv good) (h_good : good handle)
    (operation : HandleOperation) :
    Yields context inv (operation.action handle) (Held.Handles good) := by
  cases operation with
  | find locator => exact givesHandle_yields (h.find handle h_good locator)
  | findAll locator => exact givesHandles_yields (h.findAll handle h_good locator)
  | _ =>
    exact (h.toLasting.handleOperation (h.perform handle h_good) rfl).weaken
      fun _ => Held.handles_of_eq

/-- A wait for one of some good handles gives a good one. -/
theorem waitOneOf (h : Workable context inv good) {handles : List Handle}
    (h_good : ∀ handle ∈ handles, good handle) (timeoutMs : Option Nat) :
    Yields context inv (Page.waitOneOf handles timeoutMs) good :=
  (h.toLasting.waitOneOf (fun handle h_mem => h.perform handle (h_good handle h_mem))
    timeoutMs).weaken h_good

/-! ## Tables with a good root -/

theorem item (h : Workable context inv good) (h_root : good table.root) (xpath : String) :
    Yields context inv (table.item xpath) good := by
  refine .tryCatch (h.find _ h_root _) fun e => ?_
  split <;> exact .throw _

theorem items (h : Workable context inv good) (h_root : good table.root) (xpath : String) :
    Yields context inv (table.items xpath) fun found => ∀ handle ∈ found, good handle :=
  h.findAll _ h_root _

theorem cellElement (h : Workable context inv good) (h_root : good table.root)
    (row column : Nat) : Yields context inv (table.cellElement row column) good := by
  refine .tryCatch (h.item h_root _) fun e => ?_
  split
  · exact .bind (.orMiss _ (h.item h_root _)) fun _ _ => .throw _
  · exact .throw e

theorem cell (h : Workable context inv good) (h_root : good table.root) (row column : Nat) :
    Keeps context inv (table.cell row column) :=
  (h.cellElement h_root row column).bind_keeps fun _ h_cell =>
    .bind (h.outerHtml h_cell) fun _ => .lift _

theorem valuesAt (h : Workable context inv good) (h_root : good table.root) (xpath : String)
    (row : Nat) : Keeps context inv (table.valuesAt xpath row) :=
  (Yields.orMiss _ (h.item h_root xpath)).bind_keeps fun _ h_row =>
    .bind (h.outerHtml h_row) fun _ => .lift _

theorem cellValues (h : Workable context inv good) {cells : List Handle}
    (h_cells : ∀ cell ∈ cells, good cell) : Keeps context inv (Table.cellValues cells) := by
  induction cells with
  | nil => exact .pure []
  | cons cell rest ih =>
    obtain ⟨h_cell, h_rest⟩ := List.forall_mem_cons.mp h_cells
    exact .bind (h.outerHtml h_cell) fun _ => .bind (.lift _) fun _ => .bind (ih h_rest) fun _ =>
      .pure _

theorem columnValues (h : Workable context inv good) (h_root : good table.root) (column : Nat) :
    Keeps context inv (table.columnValues column) := by
  rw [Table.columnValues]
  split
  · exact .throw_bind _ _
  · exact (h.items h_root _).bind_keeps fun _ => h.cellValues

theorem valuesOf (h : Workable context inv good) (h_root : good table.root) (column : Column) :
    Keeps context inv (table.valuesOf column) :=
  .bind (.lift _) fun _ => h.columnValues h_root _

theorem indexByValue (h : Workable context inv good) (h_root : good table.root)
    (column : Column) (value : String) :
    Keeps context inv (table.indexByValue column value) := by
  refine .bind (h.valuesOf h_root column) fun values => ?_
  split
  · exact .pure _
  · exact .throw _

theorem columnCell (h : Workable context inv good) (h_root : good table.root) (column : Column)
    (row : Nat) : Yields context inv (table.columnCell column row) good := by
  rw [Table.columnCell]
  split
  · exact .bind (.throw _) fun _ (h_never : False) => h_never.elim
  · exact Keeps.bind_yields (.lift _) fun _ => h.item h_root _

theorem clickColumn (h : Workable context inv good) (h_root : good table.root)
    (column : Column) : Keeps context inv (table.clickColumn column) :=
  (h.item h_root _).bind_keeps fun header h_header =>
    h.toLasting.clickAndWait (h.perform header h_header) true

/-- What a test does with a table. -/
theorem tableOperation (h : Workable context inv good) (h_root : good table.root)
    (operation : TableOperation) :
    Yields context inv (operation.action table) (Held.Handles good) := by
  have h_nothing : ∀ {α : Type} {action : Action W α}, Keeps context inv action →
      Yields context inv (givesNothing action) (Held.Handles good) :=
    fun h_keeps => (givesNothing_yields h_keeps).weaken fun _ => Held.handles_of_eq
  cases operation with
  | root => exact givesHandle_yields (.pure h_root)
  | item xpath => exact givesHandle_yields (h.item h_root xpath)
  | items xpath => exact givesHandles_yields (h.items h_root xpath)
  | cellElement row column => exact givesHandle_yields (h.cellElement h_root row column)
  | cell row column => exact h_nothing (h.cell h_root row column)
  | rowValues row => exact h_nothing (h.valuesAt h_root _ row)
  | headerValues row => exact h_nothing (h.valuesAt h_root _ row)
  | columnValues column => exact h_nothing (h.columnValues h_root column)
  | valuesOf column => exact h_nothing (h.valuesOf h_root column)
  | indexByValue column value => exact h_nothing (h.indexByValue h_root column value)
  | rowByValue column value =>
    exact h_nothing (.bind (h.indexByValue h_root column value) fun _ => h.valuesAt h_root _ _)
  | cellsContaining column text =>
    exact givesHandles_yields (Keeps.bind_yields (.lift _) fun _ => h.items h_root _)
  | columnCell column row => exact givesHandle_yields (h.columnCell h_root column row)
  | clickColumn column => exact h_nothing (h.clickColumn h_root column)

end Workable
end PageObjects
