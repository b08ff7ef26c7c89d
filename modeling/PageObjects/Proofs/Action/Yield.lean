/-
  PageObjects.Proofs.Action.Yield

  Actions that keep an invariant of the run and give results of a kind. The kind is a
  property of the result alone, so it goes on to hold whatever happens to the run
  behind the action; handles and tables have such properties.

    * `Yields.bind` composes two steps, the second one for the results of the first.
    * `Yields.tryCatch`, `Yields.orMiss`: errors are caught under the same invariant.
    * `Yields.waitKeeping`: what a wait gives is what its looks yield.
-/

import PageObjects.Proofs.Action.Triple

namespace PageObjects
namespace Action

variable {W α β : Type} {context : Context W} {inv : Run W → Prop} {good : α → Prop}

/-- The action keeps an invariant, and what it gives is good. -/
def Yields (context : Context W) (inv : Run W → Prop) (action : Action W α) (good : α → Prop) :
    Prop :=
  Triple context inv action (fun a run => inv run ∧ good a) fun _ => inv

theorem Yields.weaken {good' : α → Prop} {action : Action W α}
    (h : Yields context inv action good) (h_good : ∀ a, good a → good' a) :
    Yields context inv action good' :=
  Triple.weaken h (fun _ h_run => h_run) (fun a _ h_end => ⟨h_end.1, h_good a h_end.2⟩)
    fun _ _ h_run => h_run

theorem Yields.keeps {action : Action W α} (h : Yields context inv action good) :
    Keeps context inv action :=
  Triple.weaken h (fun _ h_run => h_run) (fun _ _ h_end => h_end.1) fun _ _ h_run => h_run

theorem Yields.of_keeps {action : Action W α} (h : Keeps context inv action) :
    Yields context inv action fun _ => True :=
  Triple.weaken h (fun _ h_run => h_run) (fun _ _ h_run => ⟨h_run, trivial⟩) fun _ _ h_run => h_run

/-- What is known of the results of an action in any run. -/
theorem Keeps.and_ok {action : Action W α} (h : Keeps context inv action)
    (h_ok : ∀ run, ∃ a run', action context run = (.ok a, run') ∧ good a) :
    Yields context inv action good := by
  rw [Keeps.iff] at h
  intro run h_run
  obtain ⟨a, run', h_action, h_good⟩ := h_ok run
  have h_end := h run h_run
  rw [h_action] at h_end ⊢
  exact ⟨h_end, h_good⟩

/-- What a run that yields has given is good. -/
theorem Yields.of_ok {action : Action W α} (h : Yields context inv action good) {run : Run W}
    {a : α} (h_run : inv run) (h_ok : (action context run).1 = .ok a) : good a := by
  have h_end := h run h_run
  rcases h_action : action context run with ⟨result, run'⟩
  rw [h_action] at h_ok h_end
  obtain rfl : result = .ok a := h_ok
  exact h_end.2

-- ============================================================================
-- Composition
-- ============================================================================

theorem Yields.pure {a : α} (h : good a) : Yields context inv (Pure.pure a : Action W α) good :=
  Triple.pure fun _ h_run => ⟨h_run, h⟩

theorem Yields.throw (e : PageError) : Yields context inv (throw e : Action W α) good :=
  Triple.throw fun _ h_run => h_run

/-- The context of an action is the one that it runs in. -/
theorem Yields.read : Yields context inv (read : Action W (Context W)) (· = context) := by
  intro run h_run
  rw [run_read]
  exact ⟨h_run, rfl⟩

/-- The invariant holds of the state that an action looks at. -/
theorem Yields.get : Yields context inv (get : Action W (Run W)) inv := by
  intro run h_run
  rw [run_get]
  exact ⟨h_run, h_run⟩

theorem Yields.bind {x : Action W α} {f : α → Action W β} {good' : β → Prop}
    (h_x : Yields context inv x good) (h_f : ∀ a, good a → Yields context inv (f a) good') :
    Yields context inv (x >>= f) good' :=
  Triple.bind h_x fun a run h_run => h_f a h_run.2 run h_run.1

/-- A step of which no result is needed. -/
theorem Keeps.bind_yields {x : Action W α} {f : α → Action W β} {good' : β → Prop}
    (h_x : Keeps context inv x) (h_f : ∀ a, Yields context inv (f a) good') :
    Yields context inv (x >>= f) good' :=
  Triple.bind h_x h_f

/-- A step whose good results the next one needs. -/
theorem Yields.bind_keeps {x : Action W α} {f : α → Action W β} (h_x : Yields context inv x good)
    (h_f : ∀ a, good a → Keeps context inv (f a)) : Keeps context inv (x >>= f) :=
  Triple.bind h_x fun a run h_run => h_f a h_run.2 run h_run.1

theorem Yields.map {x : Action W α} {f : α → β} {good' : β → Prop}
    (h_x : Yields context inv x good) (h_f : ∀ a, good a → good' (f a)) :
    Yields context inv (do return f (← x)) good' :=
  .bind h_x fun a h_a => .pure (h_f a h_a)

theorem Yields.tryCatch {x : Action W α} {handle : PageError → Action W α}
    (h_x : Yields context inv x good) (h_handle : ∀ e, Yields context inv (handle e) good) :
    Yields context inv (tryCatch x handle) good := by
  intro run h_run
  have h_mid := h_x run h_run
  rw [run_tryCatch]
  rcases h_step : x context run with ⟨e | a, run'⟩
  · rw [h_step] at h_mid
    exact h_handle e run' h_mid
  · rw [h_step] at h_mid
    exact h_mid

theorem Yields.orMiss {x : Action W α} (miss : PageError) (h_x : Yields context inv x good) :
    Yields context inv (orMiss miss x) good :=
  .tryCatch h_x fun _ => .throw _

/-- A result that is there already, or an error. -/
theorem Yields.lift (result : Except PageError α) (h : ∀ a, result = .ok a → good a) :
    Yields context inv (liftM result : Action W α) good := by
  cases result with
  | ok a => exact .pure (h a rfl)
  | error e => exact .throw e

theorem Keeps.lift (result : Except PageError α) :
    Keeps context inv (liftM result : Action W α) := by
  cases result with
  | ok a => exact .pure a
  | error e => exact .throw e

/-- A result that is put together from another one. -/
theorem Keeps.map {x : Action W α} {f : α → β} (h_x : Keeps context inv x) :
    Keeps context inv (do return f (← x)) :=
  .bind h_x fun _ => .pure _

-- ============================================================================
-- Waits
-- ============================================================================

/-- A wait gives what it began with or what a look has found. -/
theorem Yields.waitKeeping {options : WaitOptions} {waitedFor : String} {initial : α}
    {look : Action W α} {judge : α → Action W Bool}
    (h_pause : ∀ ms (run : Run W), inv run → inv ((Run.clock context.driver).pause ms run))
    (h_initial : good initial) (h_look : Yields context inv look good)
    (h_judge : ∀ a, good a → Keeps context inv (judge a)) :
    Yields context inv (waitKeeping options waitedFor initial look judge)
      fun out => good out.2 := by
  intro run h_run
  simp only [Action.waitKeeping]
  refine @Wait.yes_keeps (Run W × α) _ options waitedFor _ (fun s => inv s.1 ∧ good s.2)
    ?_ ?_ (run, initial) ⟨h_run, h_initial⟩
  · rintro s ⟨h_run, h_kept⟩
    have h_found := h_look s.1 h_run
    rcases h_step : look context s.1 with ⟨e | found, run'⟩
    · rw [h_step] at h_found
      exact ⟨h_found, h_kept⟩
    · rw [h_step] at h_found
      exact ⟨(Keeps.iff.1 (h_judge found h_found.2)) run' h_found.1, h_found.2⟩
  · exact fun ms s h_kept => ⟨h_pause ms s.1 h_kept.1, h_kept.2⟩

end Action
end PageObjects
