/-
  PageObjects.Proofs.Memory.Reloading

  Handles that are reloaded. A handle that has gone stale is found again by its own query,
  in its place in a list and inside the element around it. `Page.reload` makes another
  query of a single handle: it takes the first match of the locator in the document.

    * `Page.reload_query`: what a reload is, with a slot and without one.
    * `Using.fitting`: a handle with a slot was found as the slot is declared.
    * `reload_in_use`: where both give the same node, and where the slot goes on to give
      what is declared for it.
-/

import PageObjects.Proofs.Memory.Agreement
import PageObjects.Proofs.Memory.Query
import PageObjects.Proofs.Page.Arrival

namespace PageObjects

open PageObjects.Action

variable {stage : Browser} {page : Page} {run run' after : Run Browser} {held held' : Held}
  {handle : Handle} {slot : String} {W : Type} {fits : Fits}

-- ============================================================================
-- Handles with slots
-- ============================================================================

/-- A handle with a slot stands under no element, and it was found by a binding that fits its slot:
    a binding for one element if it has no position. -/
def Handle.Fitting (fits : Fits) (handle : Handle) : Prop :=
  ∀ slot, handle.own.slot = some slot → handle.ancestors = []
    ∧ fits slot ⟨handle.own.locator, if handle.own.position = none then .one else .many⟩

theorem Handle.fitting_of_no_slot (h : handle.own.slot = none) : handle.Fitting fits := by
  intro slot h_slot
  rw [h] at h_slot
  cases h_slot

/-- What may be remembered for a slot has handles that fit. -/
theorem Resolved.SoundAt.fitting_handles {resolved : Resolved} (h : resolved.SoundAt fits slot) :
    ∀ handle ∈ resolved.toList, handle.Fitting fits := by
  obtain ⟨h_stored, h_fits⟩ := h
  intro handle h_mem other h_other
  cases h_stored with
  | one h_slot _ h_position h_ancestors =>
    obtain rfl := List.mem_singleton.mp h_mem
    obtain rfl := Option.some.inj (h_slot.symm.trans h_other)
    rw [h_position]
    exact ⟨h_ancestors, h_fits _ (List.mem_singleton.mpr rfl)⟩
  | many locator _ h_all =>
    obtain ⟨index, h_index⟩ := List.mem_iff_getElem?.mp h_mem
    obtain ⟨-, h_slot, -, h_position, h_ancestors⟩ := h_all index handle h_index
    obtain rfl := Option.some.inj (h_slot.symm.trans h_other)
    rw [h_position]
    exact ⟨h_ancestors, h_fits _ (List.mem_map.mpr ⟨handle, h_mem, rfl⟩)⟩

/-- Handles that may be held and fit. -/
theorem Handle.fitting_sourced :
    Sourced fits fun handle => handle.Sound fits ∧ handle.Fitting fits where
  sound h := h.1
  outermost h_slot h_memoizes h_ancestors :=
    ⟨sound_of_outermost h_memoizes h_ancestors, fitting_of_no_slot h_slot⟩
  inside h h_slot h_memoizes h_ancestors :=
    ⟨sound_of_inside h.1 h_memoizes h_ancestors, fitting_of_no_slot h_slot⟩
  remembered h handle h_mem := ⟨h.sound handle h_mem, h.fitting_handles handle h_mem⟩

/-- Every handle with a slot was found as the slot is declared. -/
theorem Using.fitting (h : Using stage page held run) :
    ∀ handle ∈ held.handles, handle.Fitting page.Honors := by
  induction h with
  | start => exact fun _ h_mem => nomatch h_mem
  | change _ _ _ ih => exact ih
  | @operate held run operation h_using h_on h_honors ih =>
    obtain ⟨h_sound, h_held⟩ := h_using.reached.sound fun _ h_operation => h_operation
    have h_table : ∀ table on, operation = .onTable table on →
        table.root.Sound page.Honors ∧ table.root.Fitting page.Honors := by
      rintro table on rfl
      cases h_honors
    have h_yields : Yields ⟨Browser.driver, page⟩ (Run.Sound page.Honors) operation.action
        (Held.Good page.Honors fun handle =>
          handle.Sound page.Honors ∧ handle.Fitting page.Honors) :=
      Operation.yields Handle.fitting_sourced
        (fun handle h_mem => ⟨h_held.handles handle h_mem, ih handle h_mem⟩) h_table h_on
        h_honors.respectsNames
    have h_end := h_yields run h_sound
    rcases h_action : operation.action ⟨Browser.driver, page⟩ run with ⟨e | got, run'⟩
    · exact ih
    · rw [h_action] at h_end
      exact List.forall_mem_append.mpr ⟨fun handle h_mem => (h_end.2.handles handle h_mem).2, ih⟩

-- ============================================================================
-- One reload
-- ============================================================================

/-- The run with a value remembered under the slot of a handle, if it has one. -/
def Run.rememberingFor (run : Run W) (handle : Handle) (value : Cached) : Run W :=
  match handle.own.slot with
  | some slot => run.remembering slot value
  | none => run

theorem Names.rememberingFor {node : String} (h : Names stage run handle node) (other : Handle)
    (value : Cached) : Names stage (run.rememberingFor other value) handle node := by
  rw [Run.rememberingFor]
  split
  · exact ⟨h.1.of_nodeAt_eq (Nat.le_refl _) fun _ _ => rfl, h.2⟩
  · exact h

namespace Binding

theorem run_live?_of_missing (h : run.memory.cache.find? slot = none) :
    live? slot ⟨Browser.driver, page⟩ run = (.ok none, run) := by
  rw [live?, run_bind_ok (run_cached? slot run), h]
  rfl

/-- A query for the first match gives a new handle of it, in the present rendering. -/
theorem run_query_one {locator : Locator} {first : String}
    (h : (run.world.namesIn locator).head? = some first) (slot : Option String) :
    ∃ found after, (Binding.one locator).query slot ⟨Browser.driver, page⟩ run
        = (.ok (.one found), after)
      ∧ after.world.url = run.world.url
      ∧ (after.referenceAt found.own.id).rendering = after.world.rendering := by
  obtain ⟨rest, h_names⟩ := List.head?_eq_some_iff.mp h
  have h_find : (sessionCall (.find locator) (slot.getD Link.anonymous) "find_element" :
      Action Browser Reference) ⟨Browser.driver, page⟩ run
        = (.ok ⟨first, run.world.rendering⟩,
          (run.exchange Browser.driver (.session (.find locator))).2) := by
    have h_answer : (run.exchange Browser.driver (.session (.find locator))).1
        = Browser.first locator (run.world.references (run.world.namesIn locator)) := rfl
    rw [run_sessionCall, h_answer, h_names]
    rfl
  obtain ⟨found, after, h_register, h_after⟩ := Handle.run_register ⟨Browser.driver, page⟩ locator
    slot slot.isSome none [] ⟨first, run.world.rendering⟩
    (run.exchange Browser.driver (.session (.find locator))).2
  have h_reference : after.referenceAt found.own.id = ⟨first, run.world.rendering⟩ :=
    List.mem_singleton.mp (h_after.reference_mem found List.mem_cons_self)
  refine ⟨found, after, ?_, ?_, ?_⟩
  · rw [query_one, run_bind_ok h_find, run_bind_ok h_register]
    rfl
  · rw [h_after.world]
    rfl
  · rw [h_reference, h_after.world]
    rfl

end Binding

namespace Page

/-- Whether the page is open depends on the address of the browser. -/
theorem checkOpened_of_url (h_opened : (checkOpened ⟨Browser.driver, page⟩ run).1 = .ok ())
    (h_url : after.world.url = run.world.url) :
    (checkOpened ⟨Browser.driver, page⟩ after).1 = .ok () := by
  rw [checkOpened_eq_ok_iff Browser.showsLast] at h_opened ⊢
  rwa [h_url]

/-- While the page is open, to reload one handle is to query for the first match of its locator and
    to remember that for the slot of the handle, if it has one. -/
theorem reload_query (h : Settled run.world run) (h_calm : run.world.Calm)
    (h_opened : (checkOpened ⟨Browser.driver, page⟩ run).1 = .ok ()) (handle : Handle) :
    ∃ asked, Follows run.world run asked ∧ asked.world = run.world
      ∧ reload (.one handle) ⟨Browser.driver, page⟩ run
        = match (Binding.one handle.own.locator).query handle.own.slot ⟨Browser.driver, page⟩
            asked with
          | (.ok resolved, found) =>
            (.ok resolved, found.rememberingFor handle (.elements resolved))
          | (.error e, found) => (.error e, found) := by
  have h_reload : reload (.one handle) ⟨Browser.driver, page⟩ run
      = (match handle.own.slot with
        | some slot => do
          forget slot
          (Binding.one handle.own.locator).resolve slot
        | none => (Binding.one handle.own.locator).query none : Action Browser Resolved)
          ⟨Browser.driver, page⟩ run := rfl
  rw [h_reload]
  cases h_slot : handle.own.slot with
  | none =>
    refine ⟨run, .refl h, rfl, ?_⟩
    dsimp only
    simp only [Run.rememberingFor, h_slot]
    rcases (Binding.one handle.own.locator).query none ⟨Browser.driver, page⟩ run with
      ⟨e | resolved, found⟩ <;> rfl
  | some slot =>
    let forgotten : Run Browser :=
      { run with memory := { run.memory with cache := run.memory.cache.drop slot } }
    have h_forgotten : Follows run.world run forgotten := .drop h slot
    have h_check := run_checkOpened (@checkOpened_of_url page run forgotten h_opened rfl)
    refine ⟨(forgotten.exchange Browser.driver (.session .currentUrl)).2,
      h_forgotten.trans (.exchange h_forgotten.settled h_calm rfl), rfl, ?_⟩
    have h_live : Binding.live? slot ⟨Browser.driver, page⟩
        (forgotten.exchange Browser.driver (.session .currentUrl)).2
          = (.ok none, (forgotten.exchange Browser.driver (.session .currentUrl)).2) :=
      Binding.run_live?_of_missing (Keyed.find?_drop_self slot run.memory.cache)
    show (forget slot >>= fun _ => (Binding.one handle.own.locator).resolve slot :
      Action Browser Resolved) ⟨Browser.driver, page⟩ run = _
    have h_drop : (forget slot : Action Browser Unit) ⟨Browser.driver, page⟩ run
        = (.ok (), forgotten) := rfl
    rw [run_bind_ok h_drop, Binding.resolve, run_bind_ok h_check, run_bind_ok h_live]
    dsimp only
    simp only [Run.rememberingFor, h_slot]
    rw [run_bind]
    rcases (Binding.one handle.own.locator).query (some slot) ⟨Browser.driver, page⟩ _ with
      ⟨e | resolved, found⟩ <;> rfl

/-- A reload fails where the document finds nothing. -/
theorem reload_error (h : Settled run.world run) (h_calm : run.world.Calm)
    (h_opened : (checkOpened ⟨Browser.driver, page⟩ run).1 = .ok ())
    (h_none : run.world.namesIn handle.own.locator = []) :
    (reload (.one handle) ⟨Browser.driver, page⟩ run).1
      = .error (.elementNotFound handle.own.locator.display) := by
  obtain ⟨asked, h_asked, h_world, h_reload⟩ := reload_query h h_calm h_opened handle
  have h_error : ((Binding.one handle.own.locator).query handle.own.slot ⟨Browser.driver, page⟩
      asked).1 = .error (.elementNotFound handle.own.locator.display) :=
    Binding.query_error page h_asked.settled handle.own.slot h_none
  rw [h_reload]
  rcases h_query : (Binding.one handle.own.locator).query handle.own.slot
    ⟨Browser.driver, page⟩ asked with ⟨e | resolved, found⟩
  · rw [h_query] at h_error
    exact h_error
  · rw [h_query] at h_error
    cases h_error

/-- Elsewhere it gives a new handle of the first match, which is at hand for the slot of the old one
    from then on. -/
theorem reload_ok (h : Settled run.world run) (h_calm : run.world.Calm)
    (h_opened : (checkOpened ⟨Browser.driver, page⟩ run).1 = .ok ()) {first : String}
    (h_first : (run.world.namesIn handle.own.locator).head? = some first) : ∃ found after,
      reload (.one handle) ⟨Browser.driver, page⟩ run = (.ok (.one found), after)
        ∧ Follows run.world run after ∧ Names run.world after found first
        ∧ ∀ slot, handle.own.slot = some slot →
          (checkOpened ⟨Browser.driver, page⟩ after).1 = .ok ()
            ∧ after.atHand? slot = some (.elements (.one found)) := by
  obtain ⟨asked, h_asked, h_world, h_reload⟩ := reload_query h h_calm h_opened handle
  have h_nodes : run.world.namesOf (.one handle.own.locator) = [first] := by
    obtain ⟨rest, h_names⟩ := List.head?_eq_some_iff.mp h_first
    show (run.world.namesIn handle.own.locator).take 1 = [first]
    rw [h_names]
    rfl
  rw [← h_world] at h_first
  obtain ⟨found, later, h_query, h_url, h_rendering⟩ :=
    @Binding.run_query_one page asked _ _ h_first handle.own.slot
  rw [h_query] at h_reload
  have h_names := @Binding.query_names run.world page asked (.one handle.own.locator)
    handle.own.slot asked (.refl h_asked.settled)
  rw [h_query] at h_names
  have h_follows := @reload_leads run.world page run h_calm (.one handle) run (.refl h)
  rw [h_reload] at h_follows
  refine ⟨found, _, h_reload, h_follows.1, ?_, fun slot h_slot => ?_⟩
  · rw [h_nodes] at h_names
    cases h_names.2 with
    | cons h_found => exact h_found.rememberingFor handle (.elements (.one found))
  · rw [Run.rememberingFor, h_slot]
    exact ⟨checkOpened_of_url h_opened (h_url.trans (congrArg Browser.url h_world)),
      Run.atHand?_remembering_self later (beq_iff_eq.mpr h_rendering)⟩

/-- While the page is open, what is at hand for a slot is given for it. -/
theorem resolve_of_atHand (h_opened : (checkOpened ⟨Browser.driver, page⟩ run).1 = .ok ())
    {binding : Binding} (h_slot : page.elements.find? slot = some binding) {resolved : Resolved}
    (h_hand : run.atHand? slot = some (.elements resolved)) :
    (resolve slot ⟨Browser.driver, page⟩ run).1 = .ok resolved := by
  obtain ⟨looked, h_live, -⟩ := @Binding.run_live? page slot
    (run.exchange Browser.driver (.session .currentUrl)).2
  have h_same : (run.exchange Browser.driver (.session .currentUrl)).2.atHand? slot
      = some (.elements resolved) := h_hand
  rw [h_same] at h_live
  rw [resolve, run_bind_ok (run_declared h_slot run), Binding.resolve,
    run_bind_ok (run_checkOpened h_opened), run_bind_ok h_live]
  rfl

end Page

-- ============================================================================
-- Reloads in a test
-- ============================================================================

/-- The states that a test goes on to from a state. -/
inductive GoesOn (page : Page) (held : Held) (run : Run Browser) : Held → Run Browser → Prop
  | here : GoesOn page held run held run
  | change {held' : Held} {run' : Run Browser} (change : Change) :
      GoesOn page held run held' run' → change.isTame = true →
      GoesOn page held run held' { run' with world := run'.world.apply change }
  | operate {held' : Held} {run' : Run Browser} (operation : Operation) :
      GoesOn page held run held' run' → operation.IsOn held' → operation.HonorsSlots page →
      GoesOn page held run ((gotten (operation.action ⟨Browser.driver, page⟩ run')).and held')
        (operation.action ⟨Browser.driver, page⟩ run').2

theorem Using.goesOn (h : Using stage page held run) (h_on : GoesOn page held run held' run') :
    Using stage page held' run' := by
  induction h_on with
  | here => exact h
  | change change _ h_tame ih => exact ih.change change h_tame
  | operate operation _ h_is h_honors ih => exact ih.operate operation h_is h_honors

/-- Whether one element was resolved or a list. -/
def Resolved.cardinality : Resolved → Cardinality
  | .one _ => .one
  | .many _ => .many

/-- What is given for a slot in a test has the cardinality that is declared for it. -/
theorem Using.cardinality_eq (h : Using stage page held run) {binding : Binding}
    (h_slot : page.elements.find? slot = some binding) {resolved : Resolved}
    (h_ok : (Page.resolve slot ⟨Browser.driver, page⟩ run).1 = .ok resolved) :
    resolved.cardinality = binding.cardinality := by
  obtain ⟨h_stored, h_fitting⟩ := (Page.resolve_yields fun _ => Page.honors_declared).of_ok
    h.sound h_ok
  cases resolved with
  | one handle =>
    rw [← h_fitting (.one handle.own.locator) (List.mem_singleton.mpr rfl) binding h_slot]
    rfl
  | many handles =>
    obtain ⟨handle, h_mem⟩ := List.exists_mem_of_ne_nil _ h_stored.toList_ne_nil
    rw [← h_fitting (.many handle.own.locator) (List.mem_map.mpr ⟨handle, h_mem, rfl⟩) binding
      h_slot]
    rfl

/-- The one handle that was got by a reload, together with what was held before. -/
def Held.reloaded (found : Handle) (before : Held) : Held :=
  Held.and { handles := [found] } before

/-- A handle of a slot for one element may be reloaded in a test. -/
theorem Using.reload (h : Using stage page held run) (h_held : handle ∈ held.handles)
    (h_handle : handle.own.slot = some slot) {binding : Binding}
    (h_slot : page.elements.find? slot = some binding) (h_one : binding.cardinality = .one)
    {found : Handle} (h_ok : Page.reload (.one handle) ⟨Browser.driver, page⟩ run
      = (.ok (.one found), after)) : Using stage page (held.reloaded found) after := by
  have h_honors : (Operation.onPage (.reload (.one handle))).HonorsSlots page := by
    intro first other h_first h_other declared h_declared
    obtain rfl : handle = first := Except.ok.inj h_first
    obtain rfl := Option.some.inj (h_handle.symm.trans h_other)
    obtain rfl := Option.some.inj (h_slot.symm.trans h_declared)
    have h_fits := (h.fitting handle h_held slot h_handle).2 binding h_slot
    rw [← h_fits] at h_one ⊢
    exact congrArg (Binding.mk handle.own.locator) h_one.symm
  have h_action : PageOperation.action (.reload (.one handle)) ⟨Browser.driver, page⟩ run
      = (.ok { handles := [found] }, after) := by
    rw [PageOperation.action, givesResolved, run_bind_ok h_ok]
    rfl
  have h_after := h.operate (.onPage (.reload (.one handle))) trivial h_honors
  rw [Operation.action, h_action] at h_after
  exact h_after

/-- One handle of a test is reloaded at any moment at which the page is open. The handle by itself
    would find its own node again. The reload fails if the document finds nothing under the locator
    of the handle, and else it gives one handle of the first match there; so it gives the node of
    the handle exactly if that is the first match, as it is if the handle has no element around it
    and is not a later one of a list. The slot of the handle goes on to give what it is declared for
    exactly if that is one element. -/
theorem reload_in_use (h_quiet : stage.Quiet) (h_using : Using stage page held run)
    (h_held : handle ∈ held.handles)
    (h_opened : (Page.checkOpened ⟨Browser.driver, page⟩ run).1 = .ok ()) :
    (Handle.requery handle.own handle.ancestors ⟨Browser.driver, page⟩ run).1
        = .ok ⟨run.nodeAt handle.own.id, run.world.rendering⟩
      ∧ (run.world.namesIn handle.own.locator = [] →
        (Page.reload (.one handle) ⟨Browser.driver, page⟩ run).1
          = .error (.elementNotFound handle.own.locator.display))
      ∧ (handle.ancestors = [] → handle.own.position.getD 0 = 0 →
        (run.world.namesIn handle.own.locator).head? = some (run.nodeAt handle.own.id))
      ∧ ∀ first, (run.world.namesIn handle.own.locator).head? = some first → ∃ found after,
        Page.reload (.one handle) ⟨Browser.driver, page⟩ run = (.ok (.one found), after)
          ∧ StandFor page after [found] [first]
          ∧ (StandFor page after [found] [run.nodeAt handle.own.id]
            ↔ first = run.nodeAt handle.own.id)
          ∧ ∀ slot binding, handle.own.slot = some slot →
            page.elements.find? slot = some binding →
            (binding.cardinality = .one ↔ ∀ held' later,
              GoesOn page (held.reloaded found) after held' later →
              ∀ resolved, (Page.resolve slot ⟨Browser.driver, page⟩ later).1 = .ok resolved →
                resolved.cardinality = binding.cardinality) := by
  have h_in := h_using.inUse h_quiet
  have h_calm := h_in.quiet.calm
  have h_placed := h_in.placed handle h_held
  have h_requery : Gives run.world page run (Handle.requery handle.own handle.ancestors)
      (.ok ⟨run.nodeAt handle.own.id, run.world.rendering⟩) :=
    Handle.requery_settled h_calm h_in.settled h_placed
  refine ⟨h_requery.elim fun _ h_after => congrArg Prod.fst h_after.1,
    fun h_none => Page.reload_error h_in.settled h_calm h_opened h_none, ?_, ?_⟩
  · intro h_outermost h_position
    have h_denoted := h_placed.denoted
    rw [h_outermost, Browser.denoted?] at h_denoted
    cases h_at : handle.own.position with
    | none =>
      rw [h_at] at h_denoted
      exact h_denoted
    | some position =>
      obtain rfl : position = 0 := by rwa [h_at] at h_position
      rw [h_at] at h_denoted
      rw [List.head?_eq_getElem?]
      exact h_denoted
  · intro first h_first
    obtain ⟨found, after, h_reload, h_follows, h_names, h_hand⟩ :=
      @Page.reload_ok page run handle h_in.settled h_calm h_opened first h_first
    have h_stand : StandFor page after [found] [first] :=
      h_follows.standFor h_in.quiet (.cons h_names .nil)
    refine ⟨found, after, h_reload, h_stand, ⟨fun h_node => ?_, fun h_eq => h_eq ▸ h_stand⟩,
      fun slot binding h_handle h_slot => ?_⟩
    · obtain ⟨h_found, -⟩ := List.forall₂_cons.mp h_stand
      obtain ⟨h_same, -⟩ := List.forall₂_cons.mp h_node
      exact h_found.1.symm.trans h_same.1
    · obtain ⟨h_open, h_atHand⟩ := h_hand slot h_handle
      constructor
      · intro h_one held' later h_on resolved h_ok
        exact ((h_using.reload h_held h_handle h_slot h_one h_reload).goesOn h_on).cardinality_eq
          h_slot h_ok
      · intro h_always
        -- the next lookup gives what was found by the reload
        exact (h_always _ _ .here _ (Page.resolve_of_atHand h_open h_slot h_atHand)).symm

/-- The second row of a list is reloaded: what is got stands for the first row, and the slot of the
    list may give one row from then on. -/
theorem reload_in_use_row : ∃ held run handle found after,
    Using Browser.twoRows Page.withRows held run ∧ handle ∈ held.handles
      ∧ (Handle.requery handle.own handle.ancestors ⟨Browser.driver, .withRows⟩ run).1
        = .ok ⟨"row-2", 1⟩
      ∧ Page.reload (.one handle) ⟨Browser.driver, .withRows⟩ run = (.ok (.one found), after)
      ∧ StandFor .withRows after [found] ["row-1"] ∧ ¬StandFor .withRows after [found] ["row-2"]
      ∧ ∃ held' later resolved, GoesOn .withRows (held.reloaded found) after held' later
        ∧ (Page.resolve "rows" ⟨Browser.driver, .withRows⟩ later).1 = .ok resolved
        ∧ resolved.cardinality ≠ .many := by
  let second : Handle := ⟨⟨1, .css ".row", some "rows", false, some 1⟩, []⟩
  have h_start : Using Browser.twoRows Page.withRows {} { world := Browser.twoRows } := .start
  have h_rows := (h_start.operate (.onPage (.visit none [])) trivial trivial).operate
    (.onPage (.elementList "rows")) trivial fun _ => Page.honors_declared
  have h_quiet : Browser.twoRows.Quiet := Browser.quiet_of_forall (by simp [Browser.twoRows])
  obtain ⟨held, run, h_using, h_held, h_url, h_node, h_rendering, h_first⟩ : ∃ held run,
      Using Browser.twoRows Page.withRows held run ∧ second ∈ held.handles
        ∧ Page.withRows.isAt run.world.url = true
        ∧ run.nodeAt second.own.id = "row-2" ∧ run.world.rendering = 1
        ∧ (run.world.namesIn second.own.locator).head? = some "row-1" :=
    ⟨_, _, h_rows, by show second ∈ Held.handles _; decide +kernel, by decide +kernel,
      by decide +kernel, by decide +kernel, by decide +kernel⟩
  have h_opened : (Page.checkOpened ⟨Browser.driver, .withRows⟩ run).1 = .ok () :=
    (Page.checkOpened_eq_ok_iff Browser.showsLast _ _).mpr h_url
  obtain ⟨h_own, -, -, h_reload⟩ := reload_in_use h_quiet h_using h_held h_opened
  obtain ⟨found, after, h_ok, h_stand, h_same, h_slot⟩ := h_reload "row-1" h_first
  rw [h_node] at h_own h_same
  rw [h_rendering] at h_own
  have h_later := mt (h_slot "rows" (.many (.css ".row")) rfl rfl).mpr (by decide)
  simp only [not_forall, exists_prop] at h_later
  obtain ⟨held', later, h_on, resolved, h_resolved, h_ne⟩ := h_later
  exact ⟨held, run, second, found, after, h_using, h_held, h_own, h_ok, h_stand,
    fun h_second => absurd (h_same.mp h_second) (by decide), held', later, resolved, h_on,
    h_resolved, h_ne⟩

end PageObjects
