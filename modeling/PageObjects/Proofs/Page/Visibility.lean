/-
  PageObjects.Proofs.Page.Visibility

  Waits for the first of some elements to be displayed. In every poll the elements are
  asked in their order, and the first answer other than "no" decides the poll. A "yes"
  gives the element. An error that says that an element is not there decides the poll as
  well, as one more "not yet": the elements behind the lost one are not asked, displayed or
  not, in this poll and in all that follow, for as long as it is lost.

    * `displayAnswers`: what all the elements would answer, `decisive` the answer that
      decides.
    * `Watch`: a wait, `Watch.ComesTo` the polls that it comes to.
    * `Watch.outcome_iff_decisive`: which element a wait gives, when it fails, and what a
      displayed element is worth behind one that is lost.
-/

import Mathlib.Data.List.Basic
import PageObjects.Proofs.Action.Polling
import PageObjects.Proofs.Recovery.Looking

namespace PageObjects

open PageObjects.Action

variable {W : Type}

namespace Page

-- ============================================================================
-- One poll
-- ============================================================================

/-- What the elements of some handles answer when all of them are asked in turn whether they are
    displayed. -/
def displayAnswers (context : Context W) : List Handle → Run W → List (Except PageError Bool)
  | [], _ => []
  | handle :: rest, run =>
    (handle.isDisplayed context run).1
      :: displayAnswers context rest (handle.isDisplayed context run).2

/-- The answer that decides a poll: the first one other than "no". -/
def decisive : List (Except PageError Bool) → Except PageError Bool
  | [] => .ok false
  | .ok false :: rest => decisive rest
  | answer :: _ => answer

/-- The first element that is displayed is number `index`, and those before it are hidden. -/
def Shows (answers : List (Except PageError Bool)) (index : Nat) : Prop :=
  answers[index]? = some (.ok true) ∧ ∀ before < index, answers[before]? = some (.ok false)

/-- One poll of a wait for the first of some elements. -/
def anyDisplayed (handles : List Handle) : Action W Bool :=
  judged (firstDisplayed? handles) fun found => return found.isSome

section answers

variable {answers : List (Except PageError Bool)} {answer : Except PageError Bool} {index : Nat}

/-- Behind answers that are all "no" another answer is the one that decides. -/
theorem decisive_of_first (h_before : ∀ before < index, answers[before]? = some (.ok false))
    (h_answer : answers[index]? = some answer) (h_not : answer ≠ .ok false) :
    decisive answers = answer := by
  induction answers generalizing index with
  | nil => cases h_answer
  | cons first rest ih =>
    cases index with
    | zero =>
      obtain rfl : first = answer := Option.some.inj h_answer
      rcases first with e | _ | _
      · rfl
      · exact absurd rfl h_not
      · rfl
    | succ index =>
      obtain rfl : first = .ok false := Option.some.inj (h_before 0 (Nat.succ_pos index))
      refine ih (fun before h_less => ?_) h_answer
      exact h_before (before + 1) (Nat.succ_lt_succ h_less)

/-- An answer that decides is the first one other than "no". -/
theorem exists_first_of_decisive (h : decisive answers = answer) (h_not : answer ≠ .ok false) :
    ∃ index : Nat, answers[index]? = some answer
      ∧ ∀ before < index, answers[before]? = some (.ok false) := by
  induction answers with
  | nil => exact absurd h.symm h_not
  | cons first rest ih =>
    rcases first with e | _ | _
    · exact ⟨0, congrArg some h, fun before h_less => absurd h_less (Nat.not_lt_zero before)⟩
    · obtain ⟨index, h_index, h_before⟩ := ih h
      refine ⟨index + 1, h_index, fun before h_less => ?_⟩
      cases before with
      | zero => rfl
      | succ before => exact h_before before (Nat.lt_of_succ_lt_succ h_less)
    · exact ⟨0, congrArg some h, fun before h_less => absurd h_less (Nat.not_lt_zero before)⟩

/-- If no answer decides, all are "no". -/
theorem eq_of_decisive_eq_no (h : decisive answers = .ok false) (h_mem : answer ∈ answers) :
    answer = .ok false := by
  induction answers with
  | nil => cases h_mem
  | cons first rest ih =>
    rcases first with e | _ | _
    · cases h
    · rcases List.mem_cons.mp h_mem with rfl | h_rest
      · rfl
      · exact ih h h_rest
    · cases h

/-- If one of the answers up to some place decides, it is one of these. -/
theorem judge_decisive {verdict : Wait.Verdict} (h_answer : answers[index]? = some answer)
    (h_not : answer ≠ .ok false)
    (h_judge : ∀ (before : Nat) (other : Except PageError Bool), before ≤ index →
      answers[before]? = some other → Wait.judge other = verdict) :
    Wait.judge (decisive answers) = verdict := by
  have h_decisive : decisive answers ≠ .ok false := by
    intro h_no
    exact h_not (eq_of_decisive_eq_no h_no (List.mem_of_getElem? h_answer))
  obtain ⟨first, h_first, h_before⟩ := exists_first_of_decisive rfl h_decisive
  refine h_judge first _ (Nat.not_lt.mp fun h_less => ?_) h_first
  exact h_not (Option.some.inj (h_answer.symm.trans (h_before index h_less)))

theorem Shows.decisive_eq (h : Shows answers index) : decisive answers = .ok true :=
  decisive_of_first h.2 h.1 nofun

end answers

/-! ## What a poll finds -/

variable {context : Context W} {handles : List Handle} {handle : Handle} {run : Run W}
  {index : Nat}

theorem length_displayAnswers (context : Context W) (handles : List Handle) (run : Run W) :
    (displayAnswers context handles run).length = handles.length := by
  induction handles generalizing run with
  | nil => rfl
  | cons handle rest ih => rw [displayAnswers, List.length_cons, ih, List.length_cons]

theorem run_firstDisplayed?_cons (handle : Handle) (rest : List Handle) (run : Run W) :
    firstDisplayed? (handle :: rest) context run = match handle.isDisplayed context run with
      | (.ok true, run) => (.ok (some handle), run)
      | (.ok false, run) => firstDisplayed? rest context run
      | (.error e, run) => (.error e, run) := by
  rw [firstDisplayed?, run_bind]
  rcases handle.isDisplayed context run with ⟨e | _ | _, behind⟩ <;> rfl

/-- A poll is answered by the answer that decides. -/
theorem anyDisplayed_answer (handles : List Handle) (run : Run W) :
    (anyDisplayed handles context run).1 = decisive (displayAnswers context handles run) := by
  rw [anyDisplayed, judged, run_bind]
  induction handles generalizing run with
  | nil => rfl
  | cons handle rest ih =>
    rw [run_firstDisplayed?_cons, displayAnswers]
    rcases handle.isDisplayed context run with ⟨e | _ | _, behind⟩
    · rfl
    · exact ih behind
    · rfl

/-- What is found is the first element that is displayed. -/
theorem firstDisplayed?_of_shows (h : Shows (displayAnswers context handles run) index)
    (h_handle : handles[index]? = some handle) :
    (firstDisplayed? handles context run).1 = .ok (some handle) := by
  induction handles generalizing run index with
  | nil => cases h_handle
  | cons first rest ih =>
    rw [run_firstDisplayed?_cons]
    rw [displayAnswers] at h
    cases index with
    | zero =>
      obtain rfl : first = handle := Option.some.inj h_handle
      have h_first : (first.isDisplayed context run).1 = .ok true := Option.some.inj h.1
      rcases h_asked : first.isDisplayed context run with ⟨answer, behind⟩
      rw [h_asked] at h_first
      obtain rfl : answer = .ok true := h_first
      rfl
    | succ index =>
      have h_first : (first.isDisplayed context run).1 = .ok false :=
        Option.some.inj (h.2 0 (Nat.succ_pos index))
      have h_rest : Shows (displayAnswers context rest (first.isDisplayed context run).2) index :=
        ⟨h.1, fun before h_less => h.2 (before + 1) (Nat.succ_lt_succ h_less)⟩
      rcases h_asked : first.isDisplayed context run with ⟨answer, behind⟩
      rw [h_asked] at h_first h_rest
      obtain rfl : answer = .ok false := h_first
      exact ih h_rest h_handle

-- ============================================================================
-- Waits
-- ============================================================================

/-- A wait for the first of some elements. -/
structure Watch (W : Type) where
  context : Context W
  handles : List Handle
  timeoutMs : Option Nat
  start : Run W

namespace Watch

/-- How the wait polls. -/
def options (watch : Watch W) : WaitOptions :=
  watch.context.page.customWait watch.timeoutMs (some Wait.defaultPollMs)

/-- What the elements answer in poll number `n`. -/
def answers (watch : Watch W) (n : Nat) : List (Except PageError Bool) :=
  displayAnswers watch.context watch.handles
    (Wait.pollState (Run.clock watch.context.driver) watch.options
      (anyDisplayed watch.handles watch.context) watch.start n)

/-- The run behind poll number `n`. -/
def behind (watch : Watch W) (n : Nat) : Run W :=
  Wait.polledState (Run.clock watch.context.driver) watch.options
    (anyDisplayed watch.handles watch.context) watch.start n

/-- What poll number `n` means for the wait. -/
def verdict (watch : Watch W) (n : Nat) : Wait.Verdict :=
  Wait.judge (decisive (watch.answers n))

/-- Poll number `n` comes to its end when the time is up. -/
def IsLate (watch : Watch W) (n : Nat) : Prop :=
  watch.options.timeoutMs
    ≤ (Run.clock watch.context.driver).now (watch.behind n)
      - (Run.clock watch.context.driver).now watch.start

/-- The wait comes to poll number `n`. -/
def ComesTo (watch : Watch W) (n : Nat) : Prop :=
  ∀ m < n, watch.verdict m = .notYet ∧ ¬watch.IsLate m

/-- What the wait gives, and the run behind it. -/
def outcome (watch : Watch W) : Except PageError Handle × Run W :=
  waitOneOf watch.handles watch.timeoutMs watch.context watch.start

/-- The error of a wait that takes too long. -/
def timeout (watch : Watch W) : PageError :=
  .timeout watch.options.timeoutMs "visibility of any of the elements"

/-- Poll number `n` ends the wait with an error: its own, or the one that the time is up. -/
def FailsWith (watch : Watch W) (n : Nat) (e : PageError) : Prop :=
  watch.verdict n = .failed e ∨ watch.verdict n = .notYet ∧ watch.IsLate n ∧ e = watch.timeout

variable {watch : Watch W} {n : Nat}

theorem verdict_eq (watch : Watch W) (n : Nat) :
    Wait.verdict (Run.clock watch.context.driver) watch.options
      (anyDisplayed watch.handles watch.context) watch.start n = watch.verdict n :=
  congrArg Wait.judge (anyDisplayed_answer watch.handles _)

theorem comesTo_iff : watch.ComesTo n
    ↔ Wait.ComesTo (Run.clock watch.context.driver) watch.options
        (anyDisplayed watch.handles watch.context) watch.start n := by
  simp only [ComesTo, Wait.ComesTo, Wait.GoesOn, verdict_eq, IsLate, Nat.not_le]
  rfl

theorem keepsTime (h_time : watch.context.driver.KeepsTime) :
    Wait.KeepsTime (Run.clock watch.context.driver) watch.options
      (anyDisplayed watch.handles watch.context) := by
  refine h_time.wait (show 0 < Wait.defaultPollMs by decide) fun start => ?_
  have h_look : Yields watch.context _ (firstDisplayed? watch.handles) _ :=
    Lasting.firstDisplayed? fun handle _ call => h_time.perform start handle call
  exact .bind h_look.keeps fun _ => .pure _

theorem outcome_eq (h_some : watch.handles ≠ []) :
    watch.outcome = (do
      let (result, found) ← waitKeeping watch.options "visibility of any of the elements" none
        (firstDisplayed? watch.handles) fun found => return found.isSome
      let _ ← result
      match found with
      | some handle => return handle
      | none => throw (.page "Could not wait for the visibility of any of the elements")
      : Action W Handle) watch.context watch.start := by
  have h_empty : watch.handles.isEmpty = false := List.isEmpty_eq_false_iff.mpr h_some
  rw [outcome, waitOneOf, h_empty]
  rfl

/-! ## The last poll -/

section last

variable (h_some : watch.handles ≠ []) (h_comes : watch.ComesTo n)

include h_some h_comes

/-- A wait ends with the poll that shows an element, and gives this element. -/
theorem outcome_of_shows {index : Nat} {handle : Handle} (h : Shows (watch.answers n) index)
    (h_handle : watch.handles[index]? = some handle) :
    watch.outcome = (.ok handle, watch.behind n) := by
  have h_verdict : watch.verdict n = .done := by rw [verdict, h.decisive_eq]; rfl
  have h_look := Prod.ext (y := (_, _)) (firstDisplayed?_of_shows h h_handle) rfl
  rw [outcome_eq h_some, run_bind_ok (waitKeeping_of_done (comesTo_iff.mp h_comes)
    ((watch.verdict_eq n).trans h_verdict) h_look)]
  rfl

theorem outcome_of_failed {e : PageError} (h : watch.verdict n = .failed e) :
    watch.outcome = (.error e, watch.behind n) := by
  obtain ⟨kept, h_wait⟩ := waitKeeping_of_failed (comesTo_iff.mp h_comes)
    ((watch.verdict_eq n).trans h)
  rw [outcome_eq h_some, run_bind_ok h_wait]
  rfl

theorem outcome_of_late (h : watch.verdict n = .notYet) (h_late : watch.IsLate n) :
    watch.outcome = (.error watch.timeout, watch.behind n) := by
  obtain ⟨kept, h_wait⟩ := waitKeeping_of_late (comesTo_iff.mp h_comes)
    ((watch.verdict_eq n).trans h) h_late
  rw [outcome_eq h_some, run_bind_ok h_wait]
  rfl

theorem outcome_of_failsWith {e : PageError} (h : watch.FailsWith n e) :
    watch.outcome = (.error e, watch.behind n) := by
  obtain h_failed | ⟨h_notYet, h_late, rfl⟩ := h
  · exact outcome_of_failed h_some h_comes h_failed
  · exact outcome_of_late h_some h_comes h_notYet h_late

end last

/-- A wait has a last poll, which shows an element or fails. -/
theorem exists_last (h_time : watch.context.driver.KeepsTime) : ∃ n, watch.ComesTo n
    ∧ ((∃ index handle, Shows (watch.answers n) index ∧ watch.handles[index]? = some handle)
      ∨ ∃ e, watch.FailsWith n e) := by
  obtain ⟨n, h_comes, h_last⟩ := (keepsTime h_time).exists_last watch.start
  refine ⟨n, comesTo_iff.mpr h_comes, ?_⟩
  rcases h_verdict : watch.verdict n with _ | _ | e
  · left
    obtain ⟨index, h_yes, h_before⟩ :=
      exists_first_of_decisive (Wait.eq_of_judge_done h_verdict) nofun
    obtain ⟨h_index, -⟩ := List.getElem?_eq_some_iff.mp h_yes
    rw [answers, length_displayAnswers] at h_index
    exact ⟨index, _, ⟨h_yes, h_before⟩, List.getElem?_eq_getElem h_index⟩
  · right
    rw [Wait.GoesOn, verdict_eq, h_verdict] at h_last
    have h_late : watch.IsLate n := Nat.not_lt.mp fun h_early => h_last ⟨rfl, h_early⟩
    exact ⟨watch.timeout, .inr ⟨h_verdict, h_late, rfl⟩⟩
  · exact .inr ⟨e, .inl h_verdict⟩

section outcomes

variable (watch) (h_time : watch.context.driver.KeepsTime) (h_some : watch.handles ≠ [])

include h_time h_some

theorem outcome_eq_ok_iff (handle : Handle) (after : Run W) :
    watch.outcome = (.ok handle, after)
      ↔ ∃ n index, watch.ComesTo n ∧ Shows (watch.answers n) index
        ∧ watch.handles[index]? = some handle ∧ watch.behind n = after := by
  constructor
  · intro h_outcome
    obtain ⟨n, h_comes, ⟨index, shown, h_shows, h_shown⟩ | ⟨e, h_fails⟩⟩ := exists_last h_time
    · rw [outcome_of_shows h_some h_comes h_shows h_shown] at h_outcome
      cases h_outcome
      exact ⟨n, index, h_comes, h_shows, h_shown, rfl⟩
    · rw [outcome_of_failsWith h_some h_comes h_fails] at h_outcome
      cases h_outcome
  · rintro ⟨n, index, h_comes, h_shows, h_handle, rfl⟩
    exact outcome_of_shows h_some h_comes h_shows h_handle

theorem outcome_eq_error_iff (e : PageError) (after : Run W) :
    watch.outcome = (.error e, after)
      ↔ ∃ n, watch.ComesTo n ∧ watch.FailsWith n e ∧ watch.behind n = after := by
  constructor
  · intro h_outcome
    obtain ⟨n, h_comes, ⟨index, shown, h_shows, h_shown⟩ | ⟨e', h_fails⟩⟩ := exists_last h_time
    · rw [outcome_of_shows h_some h_comes h_shows h_shown] at h_outcome
      cases h_outcome
    · rw [outcome_of_failsWith h_some h_comes h_fails] at h_outcome
      cases h_outcome
      exact ⟨n, h_comes, h_fails, rfl⟩
  · rintro ⟨n, h_comes, h_fails, rfl⟩
    exact outcome_of_failsWith h_some h_comes h_fails

/-- A wait gives the first displayed element of the first poll that shows one, and no poll shows an
    element behind one that is lost: such a poll is passed over, or it is the last one if the time
    is up. -/
theorem outcome_iff_decisive :
    (∀ handle after, watch.outcome = (.ok handle, after)
        ↔ ∃ n index, watch.ComesTo n ∧ Shows (watch.answers n) index
          ∧ watch.handles[index]? = some handle ∧ watch.behind n = after)
      ∧ (∀ e after, watch.outcome = (.error e, after)
        ↔ ∃ n, watch.ComesTo n ∧ watch.FailsWith n e ∧ watch.behind n = after)
      ∧ ∀ (n index lost : Nat) (e : PageError), watch.ComesTo n →
        (watch.answers n)[index]? = some (.ok true) →
        (∀ before < index, ∃ answer, (watch.answers n)[before]? = some answer
          ∧ Wait.judge answer = .notYet) →
        lost < index → (watch.answers n)[lost]? = some (.error e) →
        (watch.IsLate n → watch.outcome = (.error watch.timeout, watch.behind n))
          ∧ (¬watch.IsLate n → watch.ComesTo (n + 1)) := by
  refine ⟨outcome_eq_ok_iff watch h_time h_some, outcome_eq_error_iff watch h_time h_some, ?_⟩
  intro n index lost e h_comes h_yes h_before h_lost h_error
  have h_verdict : watch.verdict n = .notYet := by
    refine judge_decisive h_error nofun fun before other h_le h_other => ?_
    obtain ⟨answer, h_answer, h_judge⟩ := h_before before (Nat.lt_of_le_of_lt h_le h_lost)
    obtain rfl : answer = other := Option.some.inj (h_answer.symm.trans h_other)
    exact h_judge
  refine ⟨outcome_of_late h_some h_comes h_verdict, fun h_early m h_m => ?_⟩
  rcases Nat.lt_succ_iff_lt_or_eq.mp h_m with h_m | rfl
  · exact h_comes m h_m
  · exact ⟨h_verdict, h_early⟩

end outcomes

end Watch
end Page

/-- A page that shows an element, and has lost another one, in its second rendering. -/
def Browser.withoutBanner : Browser where
  rendering := 1
  nodes := [("banner", {}), ("form", {})]
  document := [(".form", ["form"])]

/-- A wait without patience for the lost element or the one that is displayed. -/
def Page.Watch.bannerOrForm : Watch Browser where
  context := ⟨Browser.driver, Page.bare⟩
  handles := [⟨⟨0, .css ".banner", none, false, none⟩, []⟩,
    ⟨⟨1, .css ".form", none, false, none⟩, []⟩]
  timeoutMs := some 0
  start := {
    world := Browser.withoutBanner, nextId := 2
    references := [(0, ⟨"banner", 0⟩), (1, ⟨"form", 0⟩)] }

/-- The displayed element is the second of the list, and the wait gives up. -/
theorem Page.Watch.outcome_iff_decisive_bannerOrForm :
    bannerOrForm.handles ≠ [] ∧ bannerOrForm.context.driver.KeepsTime
      ∧ bannerOrForm.answers 0
        = [.error (.elementNotFound "css selector=\".banner\""), .ok true]
      ∧ bannerOrForm.outcome = (.error bannerOrForm.timeout, bannerOrForm.behind 0)
      ∧ ∀ handle after, bannerOrForm.outcome ≠ (.ok handle, after) := by
  have h_answers : bannerOrForm.answers 0
      = [.error (.elementNotFound "css selector=\".banner\""), .ok true] := by decide +kernel
  have h_some : bannerOrForm.handles ≠ [] := nofun
  have h_outcome : bannerOrForm.outcome = (.error bannerOrForm.timeout, bannerOrForm.behind 0) := by
    obtain ⟨-, -, h_lost⟩ :=
      outcome_iff_decisive bannerOrForm Browser.driver_keepsTime h_some
    have h_poll := h_lost 0 1 0 (.elementNotFound "css selector=\".banner\"") nofun
    rw [h_answers] at h_poll
    refine (h_poll rfl (fun before h_less => ?_) Nat.zero_lt_one rfl).1 (Nat.zero_le _)
    obtain rfl := Nat.lt_one_iff.mp h_less
    exact ⟨_, rfl, rfl⟩
  refine ⟨h_some, Browser.driver_keepsTime, h_answers, h_outcome, fun handle after h_ok => ?_⟩
  rw [h_outcome] at h_ok
  cases h_ok

end PageObjects
