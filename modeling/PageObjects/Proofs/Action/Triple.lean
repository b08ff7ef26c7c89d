/-
  PageObjects.Proofs.Action.Triple

  Reasoning about actions. The `run_` lemmas say what the parts that actions are
  made of do to a run; with them an action is executed step by step. A `Triple`
  says what holds of the result and of the run behind an action, with one condition
  for a result and one for an error; `Keeps` is a triple whose three conditions are
  one invariant.

    * `Triple.bind` composes two steps, `Triple.weaken` changes the conditions.
    * `Keeps.ask` leaves one thing to show of an invariant, that an exchange with
      the browser keeps it.
    * `Keeps.wait` carries an invariant through a wait of any length.
-/

import PageObjects.Page.Action

namespace PageObjects

namespace Wait

section keeps

variable {σ : Type} {clock : Clock σ} {options : WaitOptions} {waitedFor : String}
  {predicate : σ → Except PageError Bool × σ} {keep : σ → Prop}
  (h_predicate : ∀ s, keep s → keep (predicate s).2)
  (h_pause : ∀ ms s, keep s → keep (clock.pause ms s))

include h_predicate h_pause

theorem pollOnce_keeps (start : Nat) (attempts : UInt32) {s : σ} (h : keep s) :
    keep (pollOnce clock options waitedFor predicate start attempts s).2 := by
  have h_asked := h_predicate s h
  rw [pollOnce]
  split
  rename_i answer next h_answer
  rw [h_answer] at h_asked
  split
  · exact h_asked
  · exact h_asked
  · split
    · exact h_asked
    · exact h_pause options.pollMs next h_asked

/-- What the predicate and the pauses keep, polling keeps, for any number of polls. -/
theorem Ends.keeps {start : Nat} {attempts : UInt32} {s : σ} {ended : Except PageError Nat × σ}
    (h_ends : Ends clock options waitedFor predicate start attempts s ended) (h : keep s) :
    keep ended.2 := by
  induction h_ends with
  | @last attempts s result after h_poll =>
    have h_once : keep (pollOnce clock options waitedFor predicate start attempts s).2 :=
      pollOnce_keeps h_predicate h_pause start attempts h
    rwa [h_poll] at h_once
  | @next attempts s again ended h_poll _ ih =>
    have h_once : keep (pollOnce clock options waitedFor predicate start attempts s).2 :=
      pollOnce_keeps h_predicate h_pause start attempts h
    rw [h_poll] at h_once
    exact ih h_once

/-- What the predicate and the pauses keep, a wait keeps. -/
theorem yes_keeps {s : σ} (h : keep s) : keep (yes clock options waitedFor predicate s).2 := by
  rw [yes]
  cases h_ended : yes? clock options waitedFor predicate s with
  | none => exact h
  | some ended =>
    exact ((yes?_isEnd clock options waitedFor predicate s ended).mp h_ended).keeps
      h_predicate h_pause h

end keeps

end Wait

namespace Action

variable {W α β : Type} {context : Context W}

-- ============================================================================
-- Executing actions
-- ============================================================================

theorem run_pure (a : α) (run : Run W) : (pure a : Action W α) context run = (.ok a, run) := rfl

theorem run_throw (e : PageError) (run : Run W) :
    (throw e : Action W α) context run = (.error e, run) := rfl

theorem run_read (run : Run W) : (read : Action W (Context W)) context run = (.ok context, run) :=
  rfl

theorem run_get (run : Run W) : (get : Action W (Run W)) context run = (.ok run, run) := rfl

theorem run_modify (f : Run W → Run W) (run : Run W) :
    (modify f : Action W Unit) context run = (.ok (), f run) := rfl

theorem run_lift (result : Except PageError α) (run : Run W) :
    (liftM result : Action W α) context run = (result, run) := by
  cases result <;> rfl

theorem run_bind (x : Action W α) (f : α → Action W β) (run : Run W) :
    (x >>= f) context run = match x context run with
      | (.ok a, run) => f a context run
      | (.error e, run) => (.error e, run) := by
  show StateT.bind (x context) (ExceptT.bindCont fun a => f a context) run = _
  rw [StateT.bind]
  show (match x context run with | (a, s) => ExceptT.bindCont (fun a => f a context) a s) = _
  rcases x context run with ⟨_ | _, _⟩ <;> rfl

theorem run_bind_ok {x : Action W α} {f : α → Action W β} {run run' : Run W} {a : α}
    (h : x context run = (.ok a, run')) : (x >>= f) context run = f a context run' := by
  rw [run_bind, h]

theorem run_bind_eq_ok_iff {x : Action W α} {f : α → Action W β} {run after : Run W} {b : β} :
    (x >>= f) context run = (.ok b, after)
      ↔ ∃ a between, x context run = (.ok a, between) ∧ f a context between = (.ok b, after) := by
  rw [run_bind]
  rcases x context run with ⟨e | a, between⟩
  · exact ⟨nofun, fun ⟨_, _, h, _⟩ => nomatch h⟩
  · exact ⟨fun h => ⟨a, between, rfl, h⟩, fun ⟨_, _, h, h_end⟩ => by cases h; exact h_end⟩

theorem run_bind_eq_error_iff {x : Action W α} {f : α → Action W β} {run after : Run W}
    {e : PageError} :
    (x >>= f) context run = (.error e, after)
      ↔ x context run = (.error e, after)
        ∨ ∃ a between, x context run = (.ok a, between)
          ∧ f a context between = (.error e, after) := by
  rw [run_bind]
  rcases x context run with ⟨e' | a, between⟩
  · refine ⟨fun h => .inl (by cases h; rfl), ?_⟩
    rintro (h | ⟨_, _, h, _⟩) <;> cases h
    rfl
  · refine ⟨fun h => .inr ⟨a, between, rfl, h⟩, ?_⟩
    rintro (h | ⟨_, _, h, h_end⟩) <;> cases h
    exact h_end

theorem run_map_snd (x : Action W α) (f : α → β) (run : Run W) :
    ((do return f (← x)) context run).2 = (x context run).2 := by
  rw [run_bind]
  rcases x context run with ⟨_ | _, _⟩ <;> rfl

theorem run_tryCatch (x : Action W α) (handle : PageError → Action W α) (run : Run W) :
    (tryCatch x handle : Action W α) context run = match x context run with
      | (.ok a, run) => (.ok a, run)
      | (.error e, run) => handle e context run := by
  show ExceptT.tryCatch (x context) (fun e => handle e context) run = _
  rw [ExceptT.tryCatch, ExceptT.mk]
  show StateT.bind (x context) _ run = _
  rw [StateT.bind]
  show (match x context run with | (a, s) => _) = _
  rcases x context run with ⟨_ | _, _⟩ <;> rfl

theorem run_ask (call : Call) (run : Run W) :
    (ask call : Action W _) context run
      = (.ok (run.exchange context.driver call).1, (run.exchange context.driver call).2) := rfl

theorem run_answered (name operation : String) (answer : Except Fault α) (run : Run W) :
    (answered name operation answer : Action W α) context run
      = (answer.mapError fun fault => .ofFault fault name operation, run) := by
  cases answer <;> rfl

theorem run_sessionCall (call : SessionCall) (name operation : String) (run : Run W) :
    (sessionCall call name operation : Action W _) context run
      = ((run.exchange context.driver (.session call)).1.mapError
          fun fault => .ofFault fault name operation,
        (run.exchange context.driver (.session call)).2) := by
  rw [sessionCall, run_bind_ok (run_ask _ _), run_answered]

theorem run_pageCall (call : SessionCall) (operation : String) (run : Run W) :
    (pageCall call operation : Action W _) context run
      = ((run.exchange context.driver (.session call)).1.mapError
          fun fault => .ofFault fault context.page.name operation,
        (run.exchange context.driver (.session call)).2) := by
  rw [pageCall, run_bind_ok (run_read _), run_sessionCall]

theorem run_pageCall_of_ok {call : SessionCall} {answer : call.Answer} {run : Run W}
    (h : (context.driver.answer (.session call) run.world).1 = .ok answer) (operation : String) :
    (pageCall call operation : Action W _) context run
      = (.ok answer, (run.exchange context.driver (.session call)).2) := by
  have h_answer : (run.exchange context.driver (.session call)).1 = .ok answer := h
  rw [run_pageCall, h_answer]
  rfl

theorem run_pageCall_of_fault {call : SessionCall} {fault : Fault} {run : Run W}
    (h : (context.driver.answer (.session call) run.world).1 = .error fault)
    (operation : String) :
    (pageCall call operation : Action W _) context run
      = (.error (.ofFault fault context.page.name operation),
        (run.exchange context.driver (.session call)).2) := by
  have h_answer : (run.exchange context.driver (.session call)).1 = .error fault := h
  rw [run_pageCall, h_answer]
  rfl

theorem run_cached? (slot : String) (run : Run W) :
    (cached? slot : Action W _) context run = (.ok (run.memory.cache.find? slot), run) := rfl

-- ============================================================================
-- Triples
-- ============================================================================

/-- From a run with `pre`, the action leads to a result and a run with `post`, or to an error and a
    run with `fail`. -/
def Triple (context : Context W) (pre : Run W → Prop) (action : Action W α)
    (post : α → Run W → Prop) (fail : PageError → Run W → Prop) : Prop :=
  ∀ run, pre run → match action context run with
    | (.ok a, run) => post a run
    | (.error e, run) => fail e run

/-- The action keeps an invariant, whether it ends in a result or in an error. -/
def Keeps (context : Context W) (inv : Run W → Prop) (action : Action W α) : Prop :=
  Triple context inv action (fun _ => inv) (fun _ => inv)

variable {pre pre' inv : Run W → Prop} {fail fail' : PageError → Run W → Prop}

theorem Triple.weaken {action : Action W α} {post post' : α → Run W → Prop}
    (h : Triple context pre action post fail) (h_pre : ∀ run, pre' run → pre run)
    (h_post : ∀ a run, post a run → post' a run) (h_fail : ∀ e run, fail e run → fail' e run) :
    Triple context pre' action post' fail' := by
  intro run h_run
  have h_end := h run (h_pre run h_run)
  rcases h_action : action context run with ⟨e | a, run'⟩
  · rw [h_action] at h_end
    exact h_fail e run' h_end
  · rw [h_action] at h_end
    exact h_post a run' h_end

theorem Triple.pure {post : α → Run W → Prop} {a : α} (h : ∀ run, pre run → post a run) :
    Triple context pre (Pure.pure a : Action W α) post fail := by
  intro run h_run
  rw [run_pure]
  exact h run h_run

theorem Triple.throw {post : α → Run W → Prop} {e : PageError} (h : ∀ run, pre run → fail e run) :
    Triple context pre (throw e : Action W α) post fail := by
  intro run h_run
  rw [run_throw]
  exact h run h_run

theorem Triple.bind {x : Action W α} {f : α → Action W β} {mid : α → Run W → Prop}
    {post : β → Run W → Prop} (h_x : Triple context pre x mid fail)
    (h_f : ∀ a, Triple context (mid a) (f a) post fail) :
    Triple context pre (x >>= f) post fail := by
  intro run h_run
  have h_mid := h_x run h_run
  rw [run_bind]
  rcases h_step : x context run with ⟨e | a, run'⟩
  · rw [h_step] at h_mid
    exact h_mid
  · rw [h_step] at h_mid
    exact h_f a run' h_mid

theorem Triple.pageCall {call : SessionCall} {post : call.Answer → Run W → Prop}
    (operation : String)
    (h : ∀ run, pre run →
      (∀ answer, (run.exchange context.driver (.session call)).1 = .ok answer →
        post answer (run.exchange context.driver (.session call)).2)
      ∧ ∀ fault, (run.exchange context.driver (.session call)).1 = .error fault →
        fail (.ofFault fault context.page.name operation)
          (run.exchange context.driver (.session call)).2) :
    Triple context pre (pageCall call operation) post fail := by
  intro run h_run
  obtain ⟨h_ok, h_fault⟩ := h run h_run
  rw [run_pageCall]
  rcases h_answer : (run.exchange context.driver (.session call)).1 with fault | answer
  · exact h_fault fault h_answer
  · exact h_ok answer h_answer

/-! ## Invariants -/

theorem Keeps.iff {action : Action W α} :
    Keeps context inv action ↔ ∀ run, inv run → inv (action context run).2 := by
  constructor
  · intro h run h_run
    have h_end := h run h_run
    rcases h_action : action context run with ⟨_ | _, run'⟩ <;> rw [h_action] at h_end <;>
      exact h_end
  · intro h run h_run
    have h_end := h run h_run
    rcases h_action : action context run with ⟨_ | _, run'⟩ <;> rw [h_action] at h_end <;>
      exact h_end

theorem Keeps.pure (a : α) : Keeps context inv (Pure.pure a : Action W α) :=
  Triple.pure fun _ h_run => h_run

theorem Keeps.throw (e : PageError) : Keeps context inv (throw e : Action W α) :=
  Triple.throw fun _ h_run => h_run

theorem Keeps.bind {x : Action W α} {f : α → Action W β} (h_x : Keeps context inv x)
    (h_f : ∀ a, Keeps context inv (f a)) : Keeps context inv (x >>= f) :=
  Triple.bind h_x h_f

/-- Behind an error nothing is done. -/
theorem Keeps.throw_bind (e : PageError) (f : α → Action W β) :
    Keeps context inv (MonadExcept.throw e >>= f) := by
  intro run h_run
  rw [run_bind, run_throw]
  exact h_run

theorem Keeps.read : Keeps context inv (read : Action W (Context W)) := by
  intro run h_run
  rw [run_read]
  exact h_run

theorem Keeps.get : Keeps context inv (get : Action W (Run W)) := by
  intro run h_run
  rw [run_get]
  exact h_run

theorem Keeps.modify {f : Run W → Run W} (h : ∀ run, inv run → inv (f run)) :
    Keeps context inv (modify f : Action W Unit) := by
  intro run h_run
  rw [run_modify]
  exact h run h_run

theorem Keeps.tryCatch {x : Action W α} {handle : PageError → Action W α}
    (h_x : Keeps context inv x) (h_handle : ∀ e, Keeps context inv (handle e)) :
    Keeps context inv (tryCatch x handle) := by
  intro run h_run
  have h_mid := h_x run h_run
  rw [run_tryCatch]
  rcases h_step : x context run with ⟨e | a, run'⟩
  · rw [h_step] at h_mid
    exact h_handle e run' h_mid
  · rw [h_step] at h_mid
    exact h_mid

/-- An invariant that every exchange keeps is kept by a call. -/
theorem Keeps.ask {call : Call}
    (h : ∀ run, inv run → inv (run.exchange context.driver call).2) :
    Keeps context inv (ask call) := by
  intro run h_run
  rw [run_ask]
  exact h run h_run

theorem Keeps.answered (name operation : String) (answer : Except Fault α) :
    Keeps context inv (answered name operation answer) := by
  cases answer with
  | ok value => exact .pure value
  | error fault => exact .throw _

theorem Keeps.sessionCall {call : SessionCall} (name operation : String)
    (h : ∀ run, inv run → inv (run.exchange context.driver (.session call)).2) :
    Keeps context inv (sessionCall call name operation) :=
  .bind (.ask h) fun answer => .answered name operation answer

theorem Keeps.pageCall {call : SessionCall} (operation : String)
    (h : ∀ run, inv run → inv (run.exchange context.driver (.session call)).2) :
    Keeps context inv (pageCall call operation) :=
  .bind .read fun _ => .sessionCall _ operation h

theorem Keeps.modifyMemory {f : Memory → Memory}
    (h : ∀ run : Run W, inv run → inv { run with memory := f run.memory }) :
    Keeps context inv (modifyMemory f) :=
  .modify h

/-! ## Waits -/

/-- What the predicate and the pauses keep, a wait keeps. -/
theorem Keeps.wait {options : WaitOptions} {waitedFor : String} {predicate : Action W Bool}
    (h_predicate : Keeps context inv predicate)
    (h_pause : ∀ ms (run : Run W), inv run → inv ((Run.clock context.driver).pause ms run)) :
    Keeps context inv (wait options waitedFor predicate) := by
  rw [Keeps.iff] at h_predicate ⊢
  intro run h_run
  exact Wait.yes_keeps h_predicate h_pause h_run

theorem Keeps.waitAsSet {waitedFor : String} {predicate : Action W Bool}
    (h_predicate : Keeps context inv predicate)
    (h_pause : ∀ ms (run : Run W), inv run → inv ((Run.clock context.driver).pause ms run)) :
    Keeps context inv (waitAsSet waitedFor predicate) :=
  .bind .read fun _ => .wait h_predicate h_pause

end Action
end PageObjects
