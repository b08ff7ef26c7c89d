/-
  PageObjects.Proofs.Recovery.Clicks

  Clicks through a handle, whatever the browser answers and however the page changes
  meanwhile. A click waits for its element, calls it with all the recovery of a call, and
  may do more behind that which can fail. So a fault may come before the call, between its
  two attempts or after it, and still the element must not be clicked twice, and not
  before the wait has found it ready.

    * `Run.Clickless`: none of the calls since then is a click; all the other parts of a
      click are like that.
    * `Handle.perform_click_attempts`: a call to click delivers one click if it is
      answered, else none.
    * `Handle.exists_ready_of_wait`: a wait that ends well ends with a poll that has found
      the element displayed, and then enabled.
    * `Handle.clicks_once`: how a click goes, with or without a wait behind it.
-/

import PageObjects.Proofs.Action.Decision
import PageObjects.Proofs.Recovery.Attempts

namespace PageObjects

open PageObjects.Action

variable {W : Type} {context : Context W} {start run between after : Run W} {handle : Handle}

-- ============================================================================
-- Clicks among calls
-- ============================================================================

namespace Exchange

/-- Whether a call to click was made. -/
def isClick : Exchange → Bool
  | ⟨.element _ .click, _, _⟩ => true
  | _ => false

/-- Whether a click was delivered, by a call that met no fault. -/
def delivers (exchange : Exchange) : Bool :=
  exchange.isClick && exchange.fault?.isNone

theorem isClick_of_harmless {exchange : Exchange} (h : exchange.call.isHarmless = true) :
    exchange.isClick = false := by
  obtain ⟨call | call | ⟨reference, call⟩, answer, memory⟩ := exchange
  · rfl
  · rfl
  · cases call with
    | click => cases h
    | _ => rfl

theorem countP_delivers_eq_zero {made : List Exchange}
    (h : ∀ exchange ∈ made, exchange.isClick = false) : made.countP delivers = 0 := by
  rw [List.countP_eq_zero]
  intro exchange h_mem
  rw [delivers, h exchange h_mem]
  exact Bool.false_ne_true

end Exchange

/-- Since `start` calls were only added, and none of them to click. -/
def Run.Clickless (start run : Run W) : Prop :=
  ∃ made, run.transcript = made ++ start.transcript
    ∧ ∀ exchange ∈ made, exchange.isClick = false

namespace Run

theorem Clickless.refl (run : Run W) : run.Clickless run :=
  ⟨[], rfl, fun _ h_mem => nomatch h_mem⟩

theorem Clickless.exchange (h : start.Clickless run) (driver : Driver W) {call : Call}
    (h_call : call.isHarmless = true) : start.Clickless (run.exchange driver call).2 := by
  obtain ⟨made, h_made, h_none⟩ := h
  refine ⟨⟨call, (run.exchange driver call).1, run.memory⟩ :: made, ?_,
    List.forall_mem_cons.mpr ⟨Exchange.isClick_of_harmless h_call, h_none⟩⟩
  rw [List.cons_append, ← h_made]
  rfl

/-- An action that adds no click to any calls makes none. -/
theorem clickless_of_keeps {α : Type} {action : Action W α}
    (h : ∀ start : Run W, Keeps context start.Clickless action) (run : Run W) :
    run.Clickless (action context run).2 :=
  Keeps.iff.mp (h run) run (.refl run)

/-- No part of an operation but a call to click makes one. -/
theorem clickless_lasting (context : Context W) (start : Run W) :
    Lasting context start.Clickless where
  exchange _ _ _ h_harmless h_run := h_run.exchange _ h_harmless
  pause _ _ h_run := h_run
  forget _ h_run := h_run
  depart _ _ _ _ h_run := h_run.exchange _ rfl

theorem clickless_steady (context : Context W) (start : Run W) :
    Steady context start.Clickless where
  toPassive := (clickless_lasting context start).toPassive
  newHandle _ h_run := ⟨fun _ => h_run, fun _ _ h_later => h_later⟩

end Run

namespace Handle

theorem perform_clickless (start : Run W) (handle : Handle) {call : ElementCall}
    (h_call : ∀ reference, (Call.element reference call).isHarmless = true) :
    Keeps context start.Clickless (handle.perform call) :=
  (Run.clickless_steady context start).perform
    (fun _ _ => ⟨fun _ _ h_run => h_run, fun _ _ _ _ h_run => h_run⟩)
    fun reference => (Run.clickless_steady context start).ask rfl (h_call reference)

theorem waitClickable_clickless (start : Run W) (handle : Handle) :
    Keeps context start.Clickless handle.waitClickable :=
  (Run.clickless_lasting context start).waitClickable (perform_clickless start handle fun _ => rfl)
    (perform_clickless start handle fun _ => rfl)

-- ============================================================================
-- The call to click
-- ============================================================================

/-- An attempt delivers a click exactly if it carries out the operation. -/
theorem delivers_eq_succeeds {own : Link} {ancestors : List Link} {operation : String}
    {log : List Attempt} {attempt : Attempt}
    (h : Recovery context.driver (levels own ancestors operation .click) start log run)
    (h_mem : attempt ∈ log) : attempt.exchange.delivers = attempt.succeeds := by
  obtain ⟨level, before, h_level, h_call⟩ := h.exists_call h_mem
  obtain ⟨_ | i, call, answer, memory⟩ := attempt
  · rw [levels_zero] at h_level
    obtain rfl := Option.some.inj h_level
    obtain rfl : call = _ := h_call
    rfl
  · have h_harmless : call.isHarmless = true := by
      rw [show call = level.callIn before from h_call]
      exact levels_harmless h_level before
    rw [Exchange.delivers, Exchange.isClick_of_harmless h_harmless]
    rfl

/-- A call to click delivers one click if it is answered well, and else none. -/
theorem perform_click_attempts (context : Context W) (handle : Handle) (run : Run W) :
    ∃ made, (handle.perform .click context run).2.transcript = made ++ run.transcript
      ∧ made.countP Exchange.delivers
        = (if (handle.perform .click context run).1.isOk then 1 else 0) := by
  have h_recovers : Recovers context _ (handle.perform .click) (Answers .click) :=
    request_recovers handle.own handle.ancestors ElementCall.click.operation .click
  obtain ⟨log, h_recovery, -, h_answers⟩ := h_recovers run
  refine ⟨log.map Attempt.exchange, h_recovery.transcript_eq, ?_⟩
  have h_count : (log.map Attempt.exchange).countP Exchange.delivers
      = log.countP Attempt.succeeds := by
    rw [List.countP_map]
    exact List.countP_congr fun attempt h_mem => by
      rw [Function.comp, delivers_eq_succeeds h_recovery h_mem]
  rw [h_count]
  cases h_result : (handle.perform .click context run).1 with
  | error e => exact h_answers.error e h_result
  | ok value => exact (h_answers.ok value h_result).1

-- ============================================================================
-- The poll before the click
-- ============================================================================

/-- The call was answered with `value`, at last by the element itself. -/
def Says (context : Context W) (handle : Handle) (call : ElementCall) (run : Run W)
    (value : call.Answer) (after : Run W) : Prop :=
  handle.perform call context run = (.ok value, after)
    ∧ ∃ reference memory earlier,
      after.transcript = ⟨.element reference call, .ok value, memory⟩ :: earlier

theorem says_of_perform {call : ElementCall} {value : call.Answer}
    (h : handle.perform call context run = (.ok value, after)) :
    Says context handle call run value after := by
  have h_recovers : Recovers context _ (handle.perform call) (Answers call) :=
    request_recovers handle.own handle.ancestors call.operation call
  obtain ⟨log, h_recovery, -, h_answers⟩ := h_recovers run
  rw [h] at h_recovery h_answers
  obtain ⟨-, reference, memory, earlier, rfl⟩ := h_answers.ok value rfl
  exact ⟨h, reference, memory, _, h_recovery.transcript_eq⟩

/-- A poll of the wait before a click finds the element displayed, and then enabled. -/
def FindsReady (context : Context W) (handle : Handle) (run found : Run W) : Prop :=
  ∃ shown, Says context handle .isDisplayed run true shown
    ∧ Says context handle .isEnabled shown true found

theorem findsReady_of_isClickable (h : handle.isClickable context run = (.ok true, after)) :
    FindsReady context handle run after := by
  obtain ⟨displayed, shown, h_displayed, h_rest⟩ := run_bind_eq_ok_iff.mp h
  cases displayed with
  | false => cases h_rest
  | true => exact ⟨shown, says_of_perform h_displayed, says_of_perform h_rest⟩

/-- The poll number `n` of the wait before a click, for which earlier polls were passed over. -/
def pollBeforeClick (context : Context W) (handle : Handle) (start : Run W) (n : Nat) : Run W :=
  Wait.pollState (Run.clock context.driver) context.page.waitOptions (handle.isClickable context)
    start n

theorem requirePage_snd (context : Context W) (link : Link) (run : Run W) :
    (link.requirePage context run).2 = run := by
  show ((if run.pageDropped then throw (.page ("page of " ++ link.context ++ " was dropped"))
    else pure () : Action W Unit) context run).2 = run
  split <;> rfl

/-- A wait that ends well has come to a poll that finds the element ready, and ends with it. -/
theorem exists_ready_of_wait (h : handle.waitClickable context run = (.ok (), after)) :
    ∃ n, Wait.PassesOver (Run.clock context.driver) context.page.waitOptions
        (handle.isClickable context) run true n
      ∧ FindsReady context handle (pollBeforeClick context handle run n) after := by
  obtain ⟨_, present, h_present, h_wait⟩ := run_bind_eq_ok_iff.mp h
  have h_same := requirePage_snd context handle.own run
  rw [h_present] at h_same
  subst h_same
  have h_yes : ∃ attempts, Wait.yes (Run.clock context.driver) context.page.waitOptions
      (handle.own.locator.display ++ " to be clickable") (handle.isClickable context) present
      = (.ok attempts, after) := by
    rw [waitAsSet, run_bind_ok (run_read _), wait] at h_wait
    rcases h_end : Wait.yes (Run.clock context.driver) context.page.waitOptions
      (handle.own.locator.display ++ " to be clickable") (handle.isClickable context) present
      with ⟨e | attempts, waited⟩
    · rw [h_end] at h_wait
      cases h_wait
    · rw [h_end] at h_wait
      cases h_wait
      exact ⟨attempts, rfl⟩
  obtain ⟨attempts, h_yes⟩ := h_yes
  obtain ⟨n, h_passes, h_answer, h_after⟩ := Wait.exists_answer_of_yes h_yes
  exact ⟨n, h_passes, findsReady_of_isClickable (Prod.ext h_answer h_after)⟩

-- ============================================================================
-- The whole click
-- ============================================================================

/-- How a click has to go that begins in `start`, makes the calls `made` and ends in `ended`. -/
structure ClicksOnce (context : Context W) (handle : Handle) (start : Run W)
    (made : List Exchange) (ended : Except PageError Unit × Run W) : Prop where
  calls : ended.2.transcript = made ++ start.transcript
  /-- A call to click is made only after a poll that has found the element ready. -/
  guarded : (∃ exchange ∈ made, exchange.isClick = true) →
    ∃ n found behind before, Wait.PassesOver (Run.clock context.driver) context.page.waitOptions
        (handle.isClickable context) start true n
      ∧ FindsReady context handle (pollBeforeClick context handle start n) found
      ∧ found.transcript = before ++ start.transcript
      ∧ made = behind ++ before
      ∧ ∀ exchange ∈ before, exchange.isClick = false
  /-- At most one click is delivered. -/
  delivered_le : made.countP Exchange.delivers ≤ 1
  /-- One click is delivered if all ends well. -/
  delivered : ended.1 = .ok () → made.countP Exchange.delivers = 1
  /-- If the wait times out or is aborted, that is all, and no call to click is made. -/
  unready : ∀ e unready, handle.waitClickable context start = (.error e, unready) →
    ended = (.error e, unready) ∧ ∀ exchange ∈ made, exchange.isClick = false

/-- What is done behind the call to click adds no click to it. -/
theorem perform_click_then {rest : Action W Unit}
    (h_rest : ∀ start : Run W, Keeps context start.Clickless rest) (handle : Handle)
    (waited : Run W) : ∃ behind,
      ((do handle.perform .click; rest : Action W Unit) context waited).2.transcript
        = behind ++ waited.transcript
      ∧ behind.countP Exchange.delivers ≤ 1
      ∧ (((do handle.perform .click; rest : Action W Unit) context waited).1 = .ok () →
        behind.countP Exchange.delivers = 1) := by
  obtain ⟨clicking, h_clicking, h_count⟩ := perform_click_attempts context handle waited
  rcases h_click : handle.perform .click context waited with ⟨e | _, clicked⟩
  · rw [h_click] at h_clicking h_count
    rw [run_bind, h_click]
    exact ⟨clicking, h_clicking, by rw [h_count]; exact Nat.zero_le 1, nofun⟩
  · rw [h_click] at h_clicking h_count
    rw [run_bind_ok h_click]
    obtain ⟨later, h_later, h_none⟩ := Run.clickless_of_keeps h_rest clicked
    have h_once : (later ++ clicking).countP Exchange.delivers = 1 := by
      rw [List.countP_append, Exchange.countP_delivers_eq_zero h_none, h_count]
      rfl
    refine ⟨later ++ clicking, ?_, Nat.le_of_eq h_once, fun _ => h_once⟩
    rw [h_later, h_clicking, List.append_assoc]

theorem clicksOnce_then {rest : Action W Unit}
    (h_rest : ∀ start : Run W, Keeps context start.Clickless rest) (handle : Handle)
    (start : Run W) : ∃ made, ClicksOnce context handle start made
      ((do handle.waitClickable; handle.perform .click; rest : Action W Unit) context start) := by
  have h_waiting : start.Clickless (handle.waitClickable context start).2 :=
    Run.clickless_of_keeps (fun start => waitClickable_clickless start handle) start
  obtain ⟨before, h_before, h_none⟩ := h_waiting
  have h_zero := Exchange.countP_delivers_eq_zero h_none
  rcases h_wait : handle.waitClickable context start with ⟨e | _, waited⟩
  · rw [h_wait] at h_before
    rw [run_bind, h_wait]
    refine ⟨before, h_before, ?_, by rw [h_zero]; exact Nat.zero_le 1, nofun, ?_⟩
    · rintro ⟨exchange, h_mem, h_click⟩
      rw [h_none exchange h_mem] at h_click
      cases h_click
    · rintro _ _ h_unready
      exact ⟨h_wait.symm.trans h_unready, h_none⟩
  · rw [h_wait] at h_before
    rw [run_bind_ok h_wait]
    obtain ⟨behind, h_behind, h_le, h_once⟩ := perform_click_then h_rest handle waited
    have h_count : (behind ++ before).countP Exchange.delivers
        = behind.countP Exchange.delivers := by
      rw [List.countP_append, h_zero, Nat.add_zero]
    refine ⟨behind ++ before, ?_, fun _ => ?_, h_count ▸ h_le,
      fun h_ok => h_count ▸ h_once h_ok, ?_⟩
    · rw [h_behind, h_before, List.append_assoc]
    · obtain ⟨n, h_passes, h_ready⟩ := exists_ready_of_wait h_wait
      exact ⟨n, waited, behind, before, h_passes, h_ready, h_before, rfl, h_none⟩
    · rintro _ _ h_unready
      cases h_wait.symm.trans h_unready

/-- What a click does behind the call to its element. -/
def followTab (handle : Handle) (focusOpenedTab : Bool) : Action W Unit := do
  if focusOpenedTab then
    handle.own.requirePage
    Page.focusLastTab

/-- What a click and the wait behind it do once the element can be clicked. -/
theorem clickAndWait_eq (handle : Handle) (focusOpenedTab : Bool) :
    handle.clickAndWait focusOpenedTab = (do
      handle.waitClickable
      handle.perform .click
      (do handle.followTab focusOpenedTab; handle.own.requirePage; Page.waitLoaders) :
        Action W Unit) := by
  show ((do handle.waitClickable; handle.perform .click; handle.followTab focusOpenedTab) >>=
    fun _ => (do handle.own.requirePage; Page.waitLoaders) : Action W Unit) = _
  simp only [bind_assoc]

theorem followTab_clickless (start : Run W) (handle : Handle) (focusOpenedTab : Bool) :
    Keeps context start.Clickless (handle.followTab focusOpenedTab) := by
  cases focusOpenedTab with
  | false => exact .pure ()
  | true =>
    exact .bind (Steady.requirePage _) fun _ => (Run.clickless_lasting context start).focusLastTab

theorem followTab_waitLoaders_clickless (start : Run W) (handle : Handle)
    (focusOpenedTab : Bool) : Keeps context start.Clickless
      (do handle.followTab focusOpenedTab; handle.own.requirePage; Page.waitLoaders) :=
  .bind (followTab_clickless start handle focusOpenedTab) fun _ =>
    .bind (Steady.requirePage _) fun _ =>
      Page.waitLoaders_keeps (Run.clickless_lasting context start).undisturbed

/-- Whatever the browser answers and however the page changes, a click, with or without tabs to
    close and loading indicators to wait for, calls the element to click it only after a poll that
    has found it displayed and then enabled. It delivers at most one click, exactly one if it ends
    well, and none if the wait for the element times out or is aborted. -/
theorem clicks_once (context : Context W) (handle : Handle) (focusOpenedTab : Bool)
    (start : Run W) :
    (∃ made, ClicksOnce context handle start made (handle.click focusOpenedTab context start))
      ∧ ∃ made, ClicksOnce context handle start made
        (handle.clickAndWait focusOpenedTab context start) := by
  rw [clickAndWait_eq]
  exact ⟨clicksOnce_then (fun start => followTab_clickless start handle focusOpenedTab) handle
      start,
    clicksOnce_then (fun start => followTab_waitLoaders_clickless start handle focusOpenedTab)
      handle start⟩

end Handle

end PageObjects
