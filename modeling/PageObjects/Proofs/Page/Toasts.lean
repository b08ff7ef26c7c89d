/-
  PageObjects.Proofs.Page.Toasts

  Waits for a toast. The containers of toasts are looked up once, and only then does the
  wait begin. A container that is there but hidden is waited for until it is displayed,
  and what it shows then is read. If there is none yet when they are looked up, that is
  an error at once, however soon one would have appeared.

    * `Toast.ofContainer_eq_ok_iff`: what can be read as a toast.
    * `Page.run_findAll`: the outcomes of the lookup.
    * `Page.toast_eq_ok_iff`, `Page.toast_eq_error_iff`: the wait behind the lookup, as a
      `Watch` of what was found.
    * `Page.toast_iff_captures`: every outcome of a wait for a toast.
-/

import PageObjects.Component.Toast
import PageObjects.Proofs.Memory.Query
import PageObjects.Proofs.Page.Visibility

namespace PageObjects

open PageObjects.Action

variable {W : Type} {context : Context W} {run searched after : Run W}

-- ============================================================================
-- Reading a toast
-- ============================================================================

/-- The element of a container is one for toasts, and its markup holds the toast. -/
def Toast.ReadIn (toast : Toast) (context : Context W) (run after : Run W) : Prop :=
  ∃ between markup,
    toast.container.attributeValue "id" context run = (.ok (some containerId), between)
      ∧ toast.container.outerHtml context between = (.ok markup, after)
      ∧ ofMarkup markup = .ok toast.content

theorem Toast.ofContainer_eq_ok_iff {container : Handle} {toast : Toast} :
    ofContainer container context run = (.ok toast, after)
      ↔ toast.container = container ∧ toast.ReadIn context run after := by
  rw [ofContainer, run_bind_eq_ok_iff]
  constructor
  · rintro ⟨id, between, h_id, h_rest⟩
    split at h_rest
    · rename_i h_expected
      obtain rfl : id = some containerId := eq_of_beq h_expected
      obtain ⟨markup, behind, h_markup, h_rest⟩ := run_bind_eq_ok_iff.mp h_rest
      obtain ⟨content, _, h_lift, h_rest⟩ := run_bind_eq_ok_iff.mp h_rest
      rw [run_lift] at h_lift
      obtain ⟨h_content, rfl⟩ := Prod.mk.inj h_lift
      cases h_rest
      exact ⟨rfl, between, markup, h_id, h_markup, h_content⟩
    · cases h_rest
  · rintro ⟨rfl, between, markup, h_id, h_markup, h_content⟩
    refine ⟨_, between, h_id, ?_⟩
    rw [if_pos (beq_self_eq_true _)]
    refine run_bind_eq_ok_iff.mpr ⟨markup, after, h_markup, ?_⟩
    rw [run_bind, run_lift, h_content]
    rfl

namespace Page

-- ============================================================================
-- The lookup of the containers
-- ============================================================================

/-- A lookup of all matches outside the slots. -/
theorem run_findAll (locator : Locator) (run : Run W) :
    findAll locator context run
      = match run.exchange context.driver (.session (.findAll locator)) with
        | (.error fault, run) => (.error (.ofFault fault Link.anonymous "find_elements"), run)
        | (.ok [], run) => (.error (.elementNotFound locator.display), run)
        | (.ok (reference :: rest), run) =>
          Handle.registerAll locator none [] 0 (reference :: rest) context run := by
  have h_query : (Binding.many locator).query none = (do
      let references ← sessionCall (.findAll locator) Link.anonymous "find_elements"
      if references.isEmpty then throw (.elementNotFound locator.display)
      return .many (← Handle.registerAll locator none [] 0 references) : Action W Resolved) := rfl
  rw [findAll, h_query, run_bind, run_bind, run_sessionCall]
  rcases run.exchange context.driver (.session (.findAll locator)) with
    ⟨fault | ⟨_ | ⟨reference, rest⟩⟩, searched⟩
  · rfl
  · rfl
  · obtain ⟨handles, start, h_register, -⟩ :=
      Handle.run_registerAll context locator none [] 0 (reference :: rest) searched
    dsimp only [Except.mapError]
    rw [if_neg nofun, run_bind_ok h_register, h_register]
    rfl

-- ============================================================================
-- The wait
-- ============================================================================

/-- The wait shows a container, and what it shows is read as the toast. -/
def Watch.Captures (watch : Watch W) (toast : Toast) (after : Run W) : Prop :=
  ∃ n index, watch.ComesTo n ∧ Shows (watch.answers n) index
    ∧ watch.handles[index]? = some toast.container
    ∧ toast.ReadIn watch.context (watch.behind n) after

/-- The wait fails, or it shows a container that is not read as a toast. -/
def Watch.Misses (watch : Watch W) (e : PageError) (after : Run W) : Prop :=
  ∃ n, watch.ComesTo n
    ∧ (watch.FailsWith n e ∧ watch.behind n = after
      ∨ ∃ index container, Shows (watch.answers n) index
        ∧ watch.handles[index]? = some container
        ∧ Toast.ofContainer container watch.context (watch.behind n) = (.error e, after))

section found

variable {handles : List Handle} {start : Run W} (h_time : context.driver.KeepsTime)
  (h_some : handles ≠ [])
  (h_found : findAll (.id Toast.containerId) context run = (.ok handles, start))

include h_time h_some h_found

theorem toast_eq_ok_iff (toast : Toast) (after : Run W) :
    Page.toast context run = (.ok toast, after)
      ↔ Watch.Captures ⟨context, handles, none, start⟩ toast after := by
  rw [Page.toast, run_bind_ok h_found, run_bind_eq_ok_iff]
  constructor
  · rintro ⟨container, between, h_outcome, h_read⟩
    obtain ⟨n, index, h_comes, h_shows, h_handle, rfl⟩ :=
      (Watch.outcome_eq_ok_iff ⟨context, handles, none, start⟩ h_time h_some
        container between).mp h_outcome
    obtain ⟨rfl, h_in⟩ := Toast.ofContainer_eq_ok_iff.mp h_read
    exact ⟨n, index, h_comes, h_shows, h_handle, h_in⟩
  · rintro ⟨n, index, h_comes, h_shows, h_handle, h_read⟩
    exact ⟨_, _, Watch.outcome_of_shows h_some h_comes h_shows h_handle,
      Toast.ofContainer_eq_ok_iff.mpr ⟨rfl, h_read⟩⟩

theorem toast_eq_error_iff (e : PageError) (after : Run W) :
    toast context run = (.error e, after)
      ↔ Watch.Misses ⟨context, handles, none, start⟩ e after := by
  rw [toast, run_bind_ok h_found, run_bind_eq_error_iff]
  constructor
  · rintro (h_outcome | ⟨container, between, h_outcome, h_read⟩)
    · obtain ⟨n, h_comes, h_fails, h_behind⟩ :=
        (Watch.outcome_eq_error_iff ⟨context, handles, none, start⟩ h_time h_some
          e after).mp h_outcome
      exact ⟨n, h_comes, .inl ⟨h_fails, h_behind⟩⟩
    · obtain ⟨n, index, h_comes, h_shows, h_handle, rfl⟩ :=
        (Watch.outcome_eq_ok_iff ⟨context, handles, none, start⟩ h_time h_some
          container between).mp h_outcome
      exact ⟨n, h_comes, .inr ⟨index, container, h_shows, h_handle, h_read⟩⟩
  · rintro ⟨n, h_comes, ⟨h_fails, rfl⟩ | ⟨index, container, h_shows, h_handle, h_read⟩⟩
    · exact .inl (Watch.outcome_of_failsWith h_some h_comes h_fails)
    · exact .inr ⟨_, _, Watch.outcome_of_shows h_some h_comes h_shows h_handle, h_read⟩

end found

/-- If no container is there when it is looked up, there is no wait: not a single poll is made, and
    the error is that of a missing element. Else a toast is captured if a container is displayed in
    time and can be read. -/
theorem toast_iff_captures (h_time : context.driver.KeepsTime) (run : Run W) :
    (∀ searched,
        run.exchange context.driver (.session (.findAll (.id Toast.containerId)))
          = (.ok [], searched) →
        toast context run
          = (.error (.elementNotFound (Locator.id Toast.containerId).display), searched))
      ∧ (∀ fault searched,
        run.exchange context.driver (.session (.findAll (.id Toast.containerId)))
          = (.error fault, searched) →
        toast context run = (.error (.ofFault fault Link.anonymous "find_elements"), searched))
      ∧ (∀ references searched,
        run.exchange context.driver (.session (.findAll (.id Toast.containerId)))
          = (.ok references, searched) → references ≠ [] →
        ∃ handles start, searched.Registers start references handles
          ∧ (∀ toast after, Page.toast context run = (.ok toast, after)
            ↔ Watch.Captures ⟨context, handles, none, start⟩ toast after)
          ∧ ∀ e after, toast context run = (.error e, after)
            ↔ Watch.Misses ⟨context, handles, none, start⟩ e after)
      ∧ ∀ kind, isToast kind context run
        = ((toast context run).1.map fun toast => toast.kind? == some kind,
          (toast context run).2) := by
  have h_find : findAll (.id Toast.containerId) context run = _ := run_findAll _ run
  refine ⟨fun searched h_none => ?_, fun fault searched h_fault => ?_,
    fun references searched h_found h_some => ?_, fun kind => ?_⟩
  · rw [h_none] at h_find
    rw [toast, run_bind, h_find]
  · rw [h_fault] at h_find
    rw [toast, run_bind, h_find]
  · obtain ⟨handles, start, h_register, h_registers⟩ := Handle.run_registerAll context
      (.id Toast.containerId) none [] 0 references searched
    obtain ⟨reference, rest, rfl⟩ := List.exists_cons_of_ne_nil h_some
    rw [h_found] at h_find
    have h_handles : handles ≠ [] := by
      intro h_nil
      have h_length := h_registers.length_eq
      rw [h_nil] at h_length
      cases h_length
    exact ⟨handles, start, h_registers,
      toast_eq_ok_iff h_time h_handles (h_find.trans h_register),
      toast_eq_error_iff h_time h_handles (h_find.trans h_register)⟩
  · rw [isToast, run_bind]
    rcases toast context run with ⟨e | toast, behind⟩ <;> rfl

end Page

/-- A browser whose page shows a container of toasts behind the first pause. -/
def Browser.toastLater : Driver Browser where
  answer call browser := browser.answer call
  clock := {
    now := Browser.clock
    pause := fun ms browser =>
      (browser.pause ms).apply (.add (Locator.id Toast.containerId).value "container") }

theorem Browser.toastLater_keepsTime : Browser.toastLater.KeepsTime where
  answer := Browser.driver_keepsTime.answer
  pause := Browser.driver_keepsTime.pause

/-- A container would be there behind a pause, and the wait fails before it makes one. -/
theorem Page.toast_iff_captures_toastLater : ∃ searched,
    Browser.toastLater.KeepsTime
      ∧ ({ world := {} } : Run Browser).exchange Browser.toastLater
          (.session (.findAll (.id Toast.containerId))) = (.ok [], searched)
      ∧ (((Run.clock Browser.toastLater).pause 1 searched).exchange Browser.toastLater
          (.session (.findAll (.id Toast.containerId)))).1 = .ok [⟨"container", 0⟩]
      ∧ toast ⟨Browser.toastLater, Page.bare⟩ { world := {} }
        = (.error (.elementNotFound "id=\"adc-toast-container\""), searched)
      ∧ isToast .error ⟨Browser.toastLater, Page.bare⟩ { world := {} }
        = (.error (.elementNotFound "id=\"adc-toast-container\""), searched) := by
  obtain ⟨h_none, -, -, h_kind⟩ := @toast_iff_captures Browser
    ⟨Browser.toastLater, Page.bare⟩ Browser.toastLater_keepsTime { world := {} }
  have h_display : (Locator.id Toast.containerId).display = "id=\"adc-toast-container\"" := by
    decide +kernel
  have h_toast := h_none _ rfl
  rw [h_display] at h_toast
  refine ⟨_, Browser.toastLater_keepsTime, rfl, ?_, h_toast, ?_⟩
  · decide +kernel
  · rw [h_kind, h_toast]
    rfl

end PageObjects
