/-
  PageObjects.Proofs.Component.Handling

  What is done with the elements of a component on a browser that falters. Each step
  through a handle in its place succeeds; it either looks at the browser and changes
  nothing, or acts on the node of the handle once.

    * `Handle.click_moves`, `Handle.clear_moves`, `Handle.sendKeys_moves`: the acts. A
      click waits first, and may look for new tabs afterwards.
    * `Handle.find_moves`, `Handle.findAll_moves`, `Page.find_moves`: the elements that are
      found are in their places and name the nodes that are there.
-/

import PageObjects.Proofs.Recovery.Faltering
import PageObjects.Proofs.Table.Clicking

namespace PageObjects

open PageObjects.Action

variable {W : Type} {context : Context W} {view : W → Browser} {keep : W → Prop} {run : Run W}
  {handle : Handle} {node : String}

-- ============================================================================
-- Clicks and keys
-- ============================================================================

namespace Run.Moves

variable {change : Browser → Browser → Prop} {start between : Run W}

/-- Before a step the browser may be looked at. -/
theorem look_act {call : ElementCall} (h : start.Moves view keep Browser.Looked between)
    (h' : between.Moves view keep (Browser.Acted node call) run) :
    start.Moves view keep (Browser.Acted node call) run :=
  h.trans h' fun h_looked ⟨seen, h_seen, h_acted⟩ => ⟨seen, h_looked.trans h_seen, h_acted⟩

/-- Behind a step nothing may happen to the browser. -/
theorem then_nothing (h : start.Moves view keep change between)
    (h' : between.Moves view keep (fun seen browser => browser = seen) run) :
    start.Moves view keep change run :=
  h.trans h' fun h_change h_same => h_same ▸ h_change

end Run.Moves

namespace Handle

section acts

variable (h_falters : context.driver.Falters view keep) (h : run.Ready keep)
  (h_names : run.Names view handle node)

include h_falters h h_names

theorem isDisplayed_moves : ∃ run',
    handle.isDisplayed context run = (.ok ((view run.world).node node).isDisplayed, run')
      ∧ run.Moves view keep Browser.Looked run' := by
  have h_answer : ((view run.world).nodeAnswer node ((view run.world).node node) .isDisplayed).1
      = .ok ((view run.world).node node).isDisplayed := rfl
  exact perform_query h_falters h h_names rfl h_answer

theorem isEnabled_moves : ∃ run',
    handle.isEnabled context run = (.ok ((view run.world).node node).isEnabled, run')
      ∧ run.Moves view keep Browser.Looked run' := by
  have h_answer : ((view run.world).nodeAnswer node ((view run.world).node node) .isEnabled).1
      = .ok ((view run.world).node node).isEnabled := rfl
  exact perform_query h_falters h h_names rfl h_answer

theorem clear_moves : ∃ run', handle.clear context run = (.ok (), run')
    ∧ run.Moves view keep (Browser.Acted node .clear) run' :=
  perform_act h_falters h h_names .clear nofun fun _ _ _ => rfl

theorem sendKeys_moves (keys : String) : ∃ run', handle.sendKeys keys context run = (.ok (), run')
    ∧ run.Moves view keep (Browser.Acted node (.sendKeys keys)) run' :=
  perform_act h_falters h h_names (.sendKeys keys) nofun fun _ _ _ => rfl

/-- An element that can be clicked is not waited for. -/
theorem waitClickable_moves (h_can : (view run.world).CanClick node) :
    ∃ run', handle.waitClickable context run = (.ok (), run')
      ∧ run.Moves view keep Browser.Looked run' := by
  obtain ⟨seen, h_displayed, h_moves⟩ := isDisplayed_moves h_falters h h_names
  rw [h_can.1] at h_displayed
  obtain ⟨run', h_enabled, h_moves'⟩ :=
    isEnabled_moves h_falters h_moves.ready (h_moves.names h_moves.world.sameFrame h_names)
  rw [h_moves.world.node_eq, h_can.2] at h_enabled
  refine ⟨run', ?_, h_moves.looked h_moves'⟩
  rw [waitClickable, run_bind_ok (Link.run_requirePage handle.own h.present)]
  apply run_wait_of_yes
  rw [isClickable, run_bind_ok h_displayed]
  exact h_enabled

/-- A click acts on its node once, and then looks for tabs if it is asked to. -/
theorem click_eq (h_can : (view run.world).CanClick node) (focusOpenedTab : Bool) :
    ∃ clicked, handle.click focusOpenedTab context run
        = handle.followTab focusOpenedTab context clicked
      ∧ run.Moves view keep (Browser.Acted node .click) clicked := by
  obtain ⟨waited, h_waited, h_moves⟩ := waitClickable_moves h_falters h h_names h_can
  have h_click : ∃ clicked, handle.perform .click context waited = (.ok (), clicked)
      ∧ waited.Moves view keep (Browser.Acted node .click) clicked :=
    perform_act h_falters h_moves.ready (h_moves.names h_moves.world.sameFrame h_names) .click
      nofun fun _ _ _ => rfl
  obtain ⟨clicked, h_click, h_moves'⟩ := h_click
  refine ⟨clicked, ?_, h_moves.look_act h_moves'⟩
  rw [click, run_bind_ok h_waited, run_bind_ok h_click]
  rfl

theorem click_moves (h_can : (view run.world).CanClick node) :
    ∃ run', handle.click false context run = (.ok (), run')
      ∧ run.Moves view keep (Browser.Acted node .click) run' := by
  obtain ⟨clicked, h_click, h_moves⟩ := click_eq h_falters h h_names h_can false
  exact ⟨clicked, h_click, h_moves⟩

/-- Where there is one window behind a click, no tab is followed. -/
theorem click_focus_moves (h_can : (view run.world).CanClick node)
    (h_windows : ∀ browser, Browser.Acted node .click (view run.world) browser →
      ∃ window, browser.windows = [window]) :
    ∃ run', handle.click true context run = (.ok (), run')
      ∧ run.Moves view keep (Browser.Acted node .click) run' := by
  obtain ⟨clicked, h_click, h_moves⟩ := click_eq h_falters h h_names h_can true
  obtain ⟨window, h_window⟩ := h_windows _ h_moves.world
  obtain ⟨h_answer, h_world⟩ :=
    Prod.ext_iff.mp (h_falters.session .windowHandles clicked.world h_moves.ready.kept)
  have h_tabs : (context.driver.answer (.session .windowHandles) clicked.world).1 = .ok [window] :=
    h_answer.trans (congrArg Except.ok h_window)
  refine ⟨(clicked.exchange context.driver (.session .windowHandles)).2, ?_,
    h_moves.then_nothing (.exchange h_falters h_moves.ready h_world)⟩
  rw [h_click]
  show (do handle.own.requirePage; Page.focusLastTab : Action W Unit) context clicked = _
  rw [run_bind_ok (Link.run_requirePage handle.own h_moves.ready.present), Page.focusLastTab,
    run_bind_ok (run_pageCall_of_ok h_tabs "window_handles")]
  rfl

end acts

end Handle

namespace Browser

/-- No change from outside is a click. -/
theorem clicks_applyAll (changes : List Change) (browser : Browser) (name : String) :
    ((browser.applyAll changes).node name).clicks = (browser.node name).clicks := by
  induction changes generalizing browser with
  | nil => rfl
  | cons change rest ih =>
    have h_adjust : ∀ (node : String) (f : Node → Node), (∀ n, (f n).clicks = n.clicks) →
        ((browser.adjustNode node f).node name).clicks = (browser.node name).clicks := by
      intro node f h_f
      rw [node_adjustNode]
      split
      · exact h_f _
      · rfl
    have h_change : ((browser.apply change).node name).clicks = (browser.node name).clicks := by
      cases change with
      | add | remove | rerender | setUrl | openWindow | scriptResult | addCookie | pushLog => rfl
      | _ => exact h_adjust _ _ fun _ => rfl
    exact (ih (browser.apply change)).trans h_change

namespace Acted

variable {stage browser : Browser} {name : String}

/-- A call to click counts as one click of its node, and no other call counts. -/
theorem clicks_eq {call : ElementCall} (h : Acted node call stage browser) :
    (browser.node name).clicks
      = (stage.node name).clicks + if call = .click ∧ name = node then 1 else 0 := by
  obtain ⟨seen, h_looked, rfl⟩ := h
  rw [← h_looked.node_eq]
  cases call with
  | click =>
    rw [nodeAnswer, clicks_applyAll, node_adjustNode]
    by_cases h_name : name = node
    · subst h_name
      simp
    · simp [h_name, Ne.symm h_name]
  | sendKeys | clear =>
    rw [nodeAnswer, node_adjustNode]
    split <;> rfl
  | _ => rfl

/-- A node that was cleared has an empty value. -/
theorem value_of_clear (h : Acted node .clear stage browser) :
    (browser.node node).attributes.find? "value" = some "" := by
  obtain ⟨seen, -, rfl⟩ := h
  rw [nodeAnswer, node_adjustNode, if_pos rfl]
  exact Keyed.find?_put_self _ _ _

/-- Keys come behind the value that is there. -/
theorem value_of_sendKeys {keys : String} (h : Acted node (.sendKeys keys) stage browser) :
    (browser.node node).attributes.find? "value"
      = some (((stage.node node).attributes.find? "value").getD "" ++ keys) := by
  obtain ⟨seen, h_looked, rfl⟩ := h
  rw [nodeAnswer, node_adjustNode, if_pos rfl, ← h_looked.node_eq]
  exact Keyed.find?_put_self _ _ _

end Acted

end Browser

-- ============================================================================
-- Elements that are found
-- ============================================================================

/-- The handles are in their places and name the nodes, one each. -/
def Run.NamesAll (view : W → Browser) (run : Run W) (handles : List Handle)
    (nodes : List String) : Prop :=
  List.Forall₂ (run.Names view) handles nodes

theorem Run.Moves.namesAll {change : Browser → Browser → Prop} {start : Run W}
    (h : start.Moves view keep change run)
    (h_frame : (view start.world).SameFrame (view run.world)) {handles : List Handle}
    {nodes : List String} (h_names : start.NamesAll view handles nodes) :
    run.NamesAll view handles nodes :=
  h_names.imp fun _ _ => h.names h_frame

namespace Handle

section finds

variable {ancestors : List Link} {names : List String}

/-- A new handle for a match of a query is in its place. -/
theorem register_moves (context : Context W) (h : run.Ready keep) (locator : Locator)
    (slot : Option String) (memoizes : Bool) {position : Option Nat} {reference : Reference}
    (h_around : Around (view run.world) (run.through view) ancestors)
    (h_names : (view run.world).namesUnder? locator ancestors = some names)
    (h_match : matchAt position names = some reference.node) :
    ∃ found run', register locator slot memoizes position ancestors reference context run
        = (.ok found, run')
      ∧ run.Moves view keep (fun seen browser => browser = seen) run'
      ∧ run'.Names view found reference.node := by
  let run' : Run W := { run with
    nextId := run.nextId + 1, references := run.references.put run.nextId reference }
  have h_old : ∀ id < run.nextId, run'.nodeAt id = run.nodeAt id := by
    intro id h_lt
    rw [Run.nodeAt, Run.referenceAt, Keyed.find?_put_of_ne (Nat.ne_of_gt h_lt)]
    rfl
  have h_new : run'.nodeAt run.nextId = reference.node := by
    rw [Run.nodeAt, Run.referenceAt, Keyed.find?_put_self]
    rfl
  have h_le : run.nextId ≤ run'.nextId := Nat.le_succ run.nextId
  have h_outer : Around (view run'.world) (run'.through view) ancestors := by
    cases ancestors with
    | nil => trivial
    | cons parent rest => exact Placed.of_nodeAt_eq h_around h_le h_old
  refine ⟨⟨{ id := run.nextId, locator, slot, memoizes, position }, ancestors⟩, run', rfl,
    ⟨⟨h.kept, h.present⟩, rfl, h_le, h_old⟩, ?_, h_new⟩
  refine .intro (Nat.lt_succ_self run.nextId) ?_ h_outer
  have h_node : (run'.through view).nodeAt run.nextId = reference.node := h_new
  rw [Browser.denoted?_eq, h_names, h_node]
  exact h_match

/-- New handles for all matches of a query are in their places. -/
theorem registerAll_moves (context : Context W) (h : run.Ready keep) (locator : Locator)
    (slot : Option String) {position : Nat} {references : List Reference}
    (h_around : Around (view run.world) (run.through view) ancestors)
    (h_names : (view run.world).namesUnder? locator ancestors = some names)
    (h_nodes : references.map Reference.node = names.drop position) :
    ∃ found run', registerAll locator slot ancestors position references context run
        = (.ok found, run')
      ∧ run.Moves view keep (fun seen browser => browser = seen) run'
      ∧ run'.NamesAll view found (names.drop position) := by
  induction references generalizing run position with
  | nil =>
    have h_none : names.drop position = [] := h_nodes.symm
    rw [h_none]
    exact ⟨[], run, rfl, ⟨h, rfl, Nat.le_refl _, fun _ _ => rfl⟩, .nil⟩
  | cons reference rest ih =>
    have h_match : matchAt (some position) names = some reference.node := by
      show names[position]? = _
      rw [← List.head?_drop, ← h_nodes]
      rfl
    have h_rest : rest.map Reference.node = names.drop (position + 1) := by
      rw [← List.tail_drop, ← h_nodes]
      rfl
    obtain ⟨first, between, h_first, h_moves, h_found⟩ :=
      register_moves context h locator slot false h_around h_names h_match
    have h_same : (view run.world).SameFrame (view between.world) :=
      h_moves.world ▸ .refl (view run.world)
    have h_around' : Around (view between.world) (between.through view) ancestors := by
      cases ancestors with
      | nil => trivial
      | cons parent rest => exact h_moves.placed h_same h_around
    obtain ⟨others, run', h_others, h_moves', h_all⟩ :=
      ih h_moves.ready h_around' (h_moves.world ▸ h_names) h_rest
    have h_same' : (view between.world).SameFrame (view run'.world) :=
      h_moves'.world ▸ .refl (view between.world)
    refine ⟨first :: others, run', ?_, h_moves.then_nothing h_moves', ?_⟩
    · rw [registerAll, run_bind_ok h_first, run_bind_ok h_others]
      rfl
    · rw [← h_nodes, List.map_cons, h_rest]
      exact .cons (h_moves'.names h_same' h_found) h_all

end finds

section lookups

variable (h_falters : context.driver.Falters view keep) (h : run.Ready keep)
  (h_names : run.Names view handle node)

include h_falters h h_names

/-- The first child of an element is found. -/
theorem find_moves {locator : Locator} {child : String}
    (h_child : (((view run.world).node node).namesIn locator).head? = some child) :
    ∃ found run', handle.find locator context run = (.ok found, run')
      ∧ run.Moves view keep Browser.Looked run' ∧ run'.Names view found child := by
  have h_answer : ((view run.world).nodeAnswer node ((view run.world).node node)
      (.find locator)).1 = .ok ⟨child, (view run.world).rendering⟩ :=
    Browser.first_references _ _ h_child
  have h_query : ∃ asked, handle.perform (.find locator) context run
        = (.ok ⟨child, (view run.world).rendering⟩, asked)
      ∧ run.Moves view keep Browser.Looked asked :=
    perform_query h_falters h h_names rfl h_answer
  obtain ⟨asked, h_asked, h_moves⟩ := h_query
  obtain ⟨h_placed, rfl⟩ := h_moves.names h_moves.world.sameFrame h_names
  have h_match : matchAt none
      (((view asked.world).node ((asked.through view).nodeAt handle.own.id)).namesIn locator)
        = some child := by
    rw [h_moves.world.node_eq]
    exact h_child
  have h_around : Around (view asked.world) (asked.through view) handle.chain := h_placed
  have h_register : ∃ found run', register locator none false none handle.chain
        ⟨child, (view run.world).rendering⟩ context asked = (.ok found, run')
      ∧ asked.Moves view keep (fun seen browser => browser = seen) run'
      ∧ run'.Names view found child :=
    register_moves context h_moves.ready locator none false h_around
      (namesUnder?_chain h_placed locator) h_match
  obtain ⟨found, run', h_found, h_moves', h_names'⟩ := h_register
  refine ⟨found, run', ?_, h_moves.then_nothing h_moves', h_names'⟩
  rw [find, run_bind_ok h_asked]
  exact h_found

/-- All children of an element are found. -/
theorem findAll_moves (locator : Locator) :
    ∃ found run', handle.findAll locator context run = (.ok found, run')
      ∧ run.Moves view keep Browser.Looked run'
      ∧ run'.NamesAll view found (((view run.world).node node).namesIn locator) := by
  have h_query : ∃ asked, handle.perform (.findAll locator) context run
        = (.ok ((view run.world).references (((view run.world).node node).namesIn locator)), asked)
      ∧ run.Moves view keep Browser.Looked asked :=
    perform_query h_falters h h_names rfl rfl
  obtain ⟨asked, h_asked, h_moves⟩ := h_query
  obtain ⟨h_placed, h_node⟩ := h_moves.names h_moves.world.sameFrame h_names
  have h_under := namesUnder?_chain h_placed locator
  rw [h_node, h_moves.world.node_eq] at h_under
  have h_around : Around (view asked.world) (asked.through view) handle.chain := h_placed
  have h_register : ∃ found run', registerAll locator none handle.chain 0
        ((view run.world).references (((view run.world).node node).namesIn locator)) context asked
          = (.ok found, run')
      ∧ asked.Moves view keep (fun seen browser => browser = seen) run'
      ∧ run'.NamesAll view found (((view run.world).node node).namesIn locator) :=
    registerAll_moves context h_moves.ready locator none h_around h_under
      (Browser.map_node_references _ _)
  obtain ⟨found, run', h_found, h_moves', h_all⟩ := h_register
  refine ⟨found, run', ?_, h_moves.then_nothing h_moves', h_all⟩
  rw [findAll, run_bind_ok h_asked]
  exact h_found

end lookups

end Handle

/-- The first element of the document is found. -/
theorem Page.find_moves (h_falters : context.driver.Falters view keep) (h : run.Ready keep)
    {locator : Locator} {child : String}
    (h_child : ((view run.world).namesIn locator).head? = some child) :
    ∃ found run', Page.find locator context run = (.ok found, run')
      ∧ run.Moves view keep Browser.Looked run' ∧ run'.Names view found child := by
  obtain ⟨h_answer, h_world⟩ := Prod.mk.inj (h_falters.session (.find locator) run.world h.kept)
  have h_first : (run.exchange context.driver (.session (.find locator))).1
      = .ok ⟨child, (view run.world).rendering⟩ :=
    h_answer.trans (Browser.first_references _ _ h_child)
  have h_moves : run.Moves view keep Browser.Looked
      (run.exchange context.driver (.session (.find locator))).2 :=
    .exchange h_falters h ⟨_, h_world⟩
  have h_names : (view (run.exchange context.driver (.session (.find locator))).2.world).namesUnder?
      locator [] = some ((view run.world).namesIn locator) :=
    congrArg some (h_moves.world.sameFrame.namesIn_eq locator)
  have h_register : ∃ found run', Handle.register locator none false none []
        ⟨child, (view run.world).rendering⟩ context
          (run.exchange context.driver (.session (.find locator))).2 = (.ok found, run')
      ∧ (run.exchange context.driver (.session (.find locator))).2.Moves view keep
          (fun seen browser => browser = seen) run'
      ∧ run'.Names view found child :=
    Handle.register_moves context h_moves.ready locator none false trivial h_names h_child
  obtain ⟨found, run', h_found, h_moves', h_named⟩ := h_register
  refine ⟨found, run', ?_, h_moves.then_nothing h_moves', h_named⟩
  have h_call : Action.sessionCall (.find locator) Link.anonymous "find_element" context run
      = (.ok ⟨child, (view run.world).rendering⟩,
        (run.exchange context.driver (.session (.find locator))).2) := by
    rw [run_sessionCall, h_first]
    rfl
  have h_query : (Binding.one locator).query none context run = (.ok (.one found), run') := by
    rw [Binding.query_one]
    show (Action.sessionCall (.find locator) Link.anonymous "find_element" >>= _ : Action W _)
      context run = _
    rw [run_bind_ok h_call]
    exact run_bind_ok h_found
  rw [Page.find, run_bind_ok h_query]
  rfl

end PageObjects
