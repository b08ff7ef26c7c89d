/-
  PageObjects.Proofs.Action.Mishap

  The errors that a look-up on a page ends in. Elements may be missing or stale, the
  driver may fail, markup may have another form: all that depends on the browser. No
  look-up blames the declaration of the page for it.

    * `Fails.bind`: the errors of two steps are those of either.
    * `request_fails`, `perform_fails`: calls to elements, by induction on the elements around
      them.
    * `Table.load_fails`: the search for a table.
-/

import PageObjects.Page.Table
import PageObjects.Proofs.Action.Triple

namespace PageObjects

namespace PageError

/-- Whether the error blames the declaration or the settings. -/
def isConfig : PageError → Bool
  | .config _ => true
  | _ => false

/-- The error is no fault of the declaration. -/
def IsMishap (e : PageError) : Prop := e.isConfig = false

theorem isMishap_ofFault (fault : Fault) (name operation : String) :
    (ofFault fault name operation).IsMishap := by
  cases fault <;> rfl

end PageError

open PageError

namespace Action

variable {W α β : Type} {context : Context W} {kind : PageError → Prop}

/-- Whatever error the action ends in, it is one of a kind. -/
def Fails (context : Context W) (action : Action W α) (kind : PageError → Prop) : Prop :=
  Triple context (fun _ => True) action (fun _ _ => True) fun e _ => kind e

theorem Fails.pure (a : α) : Fails context (Pure.pure a : Action W α) kind :=
  Triple.pure fun _ _ => trivial

theorem Fails.throw {e : PageError} (h : kind e) :
    Fails context (MonadExcept.throw e : Action W α) kind :=
  Triple.throw fun _ _ => h

theorem Fails.bind {x : Action W α} {f : α → Action W β} (h_x : Fails context x kind)
    (h_f : ∀ a, Fails context (f a) kind) : Fails context (x >>= f) kind :=
  Triple.bind h_x h_f

/-- An action that always gives a result has no errors. -/
theorem Fails.of_ok {action : Action W α}
    (h : ∀ run, ∃ a after, action context run = (.ok a, after)) : Fails context action kind := by
  intro run _
  obtain ⟨a, after, h_action⟩ := h run
  rw [h_action]
  trivial

theorem Fails.read : Fails context (read : Action W (Context W)) kind :=
  .of_ok fun run => ⟨context, run, run_read run⟩

theorem Fails.lift {result : Except PageError α} (h : ∀ e, result = .error e → kind e) :
    Fails context (liftM result : Action W α) kind := by
  cases result with
  | ok a => exact .pure a
  | error e => exact .throw (h e rfl)

theorem Fails.weaken {action : Action W α} {kind' : PageError → Prop}
    (h : Fails context action kind) (h_kind : ∀ e, kind e → kind' e) :
    Fails context action kind' :=
  Triple.weaken h (fun _ h_run => h_run) (fun _ _ h_post => h_post) fun e _ => h_kind e

/-- An error that the action ends in is of the kind. -/
theorem Fails.of_error {action : Action W α} (h : Fails context action kind) {run : Run W}
    {e : PageError} (h_error : (action context run).1 = .error e) : kind e := by
  have h_end := h run trivial
  rcases h_action : action context run with ⟨result, after⟩
  rw [h_action] at h_error h_end
  obtain rfl : result = .error e := h_error
  exact h_end

-- ============================================================================
-- Calls
-- ============================================================================

theorem Fails.ask (call : Call) : Fails context (ask call) kind :=
  .of_ok fun run => ⟨_, _, run_ask call run⟩

theorem answered_fails (name operation : String) (answer : Except Fault α) :
    Fails context (answered name operation answer) IsMishap := by
  cases answer with
  | ok value => exact .pure value
  | error fault => exact .throw (isMishap_ofFault fault name operation)

theorem sessionCall_fails (call : SessionCall) (name operation : String) :
    Fails context (sessionCall call name operation) IsMishap :=
  .bind (.ask _) fun answer => answered_fails name operation answer

theorem pageCall_fails (call : SessionCall) (operation : String) :
    Fails context (pageCall call operation) IsMishap :=
  .bind .read fun _ => sessionCall_fails call _ operation

end Action

open PageObjects.Action

variable {W : Type} {context : Context W}

namespace Handle

theorem memoize_fails (handle : Handle) : Fails context handle.memoize IsMishap := by
  rw [memoize]
  split
  · split
    · exact .of_ok fun run => ⟨_, _, rfl⟩
    · exact .pure ()
  · exact .pure ()

theorem requirePage_fails (link : Link) : Fails context link.requirePage IsMishap := by
  refine .bind (.of_ok fun run => ⟨_, _, run_get run⟩) fun run => ?_
  split
  · exact .throw rfl
  · exact .pure ()

theorem reload_fails (handle : Handle) {refind : Action W Reference}
    (h : Fails context refind IsMishap) : Fails context (handle.reload refind) IsMishap :=
  .bind (requirePage_fails handle.own) fun _ =>
    .bind h fun _ => .bind (.of_ok fun _ => ⟨_, _, rfl⟩) fun _ => memoize_fails handle

theorem recovering_fails (handle : Handle) {refind : Action W Reference}
    (h : Fails context refind IsMishap) (operation : String) (call : ElementCall) :
    Fails context (handle.recovering refind operation call) IsMishap := by
  refine .bind (.of_ok fun _ => ⟨_, _, rfl⟩) fun reference => .bind (.ask _) fun first => ?_
  split
  · exact .bind (reload_fails handle h) fun _ =>
      .bind (.of_ok fun _ => ⟨_, _, rfl⟩) fun _ => .bind (.ask _) fun again =>
        answered_fails _ operation again
  · exact answered_fails _ operation first

theorem refind_fails (own : Link) {first : Action W Reference} {all : Action W (List Reference)}
    (h_first : Fails context first IsMishap) (h_all : Fails context all IsMishap) :
    Fails context (own.refind first all) IsMishap := by
  rw [Link.refind]
  split
  · exact h_first
  · refine .bind h_all fun found => .lift fun e h_error => ?_
    rw [Link.pick] at h_error
    split at h_error
    · cases h_error
    · obtain rfl := Except.error.inj h_error
      rfl

theorem request_fails (own : Link) (ancestors : List Link) (operation : String)
    (call : ElementCall) : Fails context (request own ancestors operation call) IsMishap := by
  induction ancestors generalizing own operation call with
  | nil =>
    exact recovering_fails _ (refind_fails own (sessionCall_fails _ _ _) (sessionCall_fails _ _ _))
      operation call
  | cons parent rest ih =>
    exact recovering_fails _ (refind_fails own (ih parent _ _) (ih parent _ _)) operation call

theorem perform_fails (handle : Handle) (call : ElementCall) :
    Fails context (handle.perform call) IsMishap :=
  request_fails handle.own handle.ancestors _ call

theorem find_fails (handle : Handle) (locator : Locator) :
    Fails context (handle.find locator) IsMishap :=
  .bind (perform_fails handle _) fun _ => .of_ok fun _ => ⟨_, _, rfl⟩

theorem innerHtml_fails (handle : Handle) : Fails context handle.innerHtml IsMishap :=
  .bind (perform_fails handle _) fun _ => .pure _

end Handle

-- ============================================================================
-- Pages and tables
-- ============================================================================

theorem Page.checkOpened_fails : Fails context Page.checkOpened IsMishap := by
  refine .bind (pageCall_fails _ _) fun opened => .bind .read fun _ => ?_
  dsimp only
  split
  · exact .pure ()
  · exact .throw rfl

/-- The errors of a table that is looked up once are those of its search. -/
theorem Page.rememberedTable_fails {kind : PageError → Prop} (h_mishap : ∀ e, e.IsMishap → kind e)
    {load : Action W Table} (h : Fails context load kind) (key : String) :
    Fails context (rememberedTable key load) kind := by
  refine .bind (checkOpened_fails.weaken h_mishap) fun _ =>
    .bind (.of_ok fun _ => ⟨_, _, rfl⟩) fun found => ?_
  split
  · exact .pure _
  · exact .bind h fun _ => .of_ok fun _ => ⟨_, _, rfl⟩

theorem Table.load_fails (slot : String) (spec : TableSpec) (rootXPath : String) :
    Fails context (Table.load slot spec rootXPath) IsMishap := by
  refine .bind (sessionCall_fails _ _ _) fun _ => .bind (.of_ok fun _ => ⟨_, _, rfl⟩) fun root =>
    .bind (Handle.find_fails root _) fun head => .bind (Handle.innerHtml_fails head) fun markup =>
      .bind (.lift fun e h_error => ?_) fun _ => .pure _
  rw [Header.parse] at h_error
  cases h_header : Header.ofNodes Header.defaultTextKey spec.trackedAttributes
      (Markup.parse markup) with
  | ok header => rw [h_header] at h_error; cases h_error
  | error fault =>
    rw [h_header] at h_error
    obtain rfl := Except.error.inj h_error
    rfl

end PageObjects
