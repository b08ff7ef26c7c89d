/-
  PageObjects.Proofs.Recovery.Request

  Calls through placed handles. A query that is made through a placed handle has the
  answer of the node that the reference of the handle names, however stale the
  reference is and those of the elements around it are.

    * `refind_settled`: the query of a handle, made again, gives its node.
    * `recovering_settled`: with such a query a stale call has the answer of the node.
    * `request_settled` puts these together, by induction on the elements around.
-/

import PageObjects.Proofs.Recovery.Placement

namespace PageObjects

/-- The action gives `result`; the handles stay in their places, and nothing is rendered anew. -/
def Gives {α : Type} (stage : Browser) (page : Page) (run : Run Browser) (action : Action Browser α)
    (result : Except PageError α) : Prop :=
  ∃ run', action ⟨Browser.driver, page⟩ run = (result, run') ∧ Follows stage run run'
    ∧ run'.world.rendering = run.world.rendering

variable {stage : Browser} {page : Page} {run : Run Browser} {own : Link} {ancestors : List Link}
  {α β : Type}

namespace Gives

theorem result_eq {action : Action Browser α} {result : Except PageError α}
    (h : Gives stage page run action result) : (action ⟨Browser.driver, page⟩ run).1 = result := by
  obtain ⟨run', h_run, -⟩ := h
  rw [h_run]

theorem bind_ok {x : Action Browser α} {f : α → Action Browser β} {a : α}
    {result : Except PageError β} (h_x : Gives stage page run x (.ok a))
    (h_f : ∀ run', Follows stage run run' → run'.world.rendering = run.world.rendering →
      Gives stage page run' (f a) result) : Gives stage page run (x >>= f) result := by
  obtain ⟨run', h_run, h_follows, h_rendering⟩ := h_x
  obtain ⟨run'', h_run', h_follows', h_rendering'⟩ := h_f run' h_follows h_rendering
  refine ⟨run'', ?_, h_follows.trans h_follows', h_rendering'.trans h_rendering⟩
  rw [Action.run_bind_ok h_run, h_run']

theorem pure (h : Settled stage run) (a : α) :
    Gives stage page run (Pure.pure a : Action Browser α) (.ok a) :=
  ⟨run, rfl, .refl h, rfl⟩

/-- A step that leaves the run as it is. -/
theorem of_eq {action : Action Browser α} {result : Except PageError α} (h : Settled stage run)
    (h_run : action ⟨Browser.driver, page⟩ run = (result, run)) :
    Gives stage page run action result :=
  ⟨run, h_run, .refl h, rfl⟩

/-- The document finds the nodes of the stage; all that a search changes is the count of it. -/
theorem find (h : Settled stage run) (locator : Locator) (name operation : String) :
    Gives stage page run (Action.sessionCall (.find locator) name operation)
      ((Browser.first locator
        (({ stage with rendering := run.world.rendering } : Browser).references
          (stage.namesIn locator))).mapError fun fault => .ofFault fault name operation) := by
  have h_run : Action.sessionCall (.find locator) name operation ⟨Browser.driver, page⟩ run = _ :=
    Action.run_sessionCall (.find locator) name operation run
  have h_names : stage.namesIn locator = run.world.namesIn locator := by
    rw [Browser.namesIn, ← h.shows.document, Browser.namesIn]
  rw [h_names]
  exact ⟨_, h_run, .of_world h ⟨h.shows.nodes, h.shows.document⟩, rfl⟩

theorem findAll (h : Settled stage run) (locator : Locator) (name operation : String) :
    Gives stage page run (Action.sessionCall (.findAll locator) name operation)
      (.ok (({ stage with rendering := run.world.rendering } : Browser).references
        (stage.namesIn locator))) := by
  have h_run :
      Action.sessionCall (.findAll locator) name operation ⟨Browser.driver, page⟩ run = _ :=
    Action.run_sessionCall (.findAll locator) name operation run
  have h_names : stage.namesIn locator = run.world.namesIn locator := by
    rw [Browser.namesIn, ← h.shows.document, Browser.namesIn]
  rw [h_names]
  exact ⟨_, h_run, .of_world h ⟨h.shows.nodes, h.shows.document⟩, rfl⟩

end Gives

namespace Link

theorem run_requirePage {W : Type} {context : Context W} {run : Run W} (link : Link)
    (h : run.pageDropped = false) : link.requirePage context run = (.ok (), run) := by
  have h_run : link.requirePage context run
      = (if run.pageDropped then throw (.page ("page of " ++ link.context ++ " was dropped"))
          else pure () : Action W Unit) context run := rfl
  rw [h_run, h]
  rfl

/-- The query of a handle, made again, gives the match that the handle stands for. -/
theorem refind_settled {names : List String} {node : String} {rendering : Nat}
    {first : Action Browser Reference} {all : Action Browser (List Reference)}
    {toError : Fault → PageError}
    (h_first : Gives stage page run first
      ((Browser.first own.locator (({ stage with rendering } : Browser).references names)).mapError
        toError))
    (h_all : Gives stage page run all (.ok (({ stage with rendering } : Browser).references names)))
    (h_choose : matchAt own.position names = some node) :
    Gives stage page run (own.refind first all) (.ok ⟨node, rendering⟩) := by
  rw [refind]
  cases h_position : own.position with
  | none =>
    rw [h_position] at h_choose
    have h_head : names.head? = some node := h_choose
    obtain ⟨rest, rfl⟩ := List.head?_eq_some_iff.mp h_head
    exact h_first
  | some position =>
    rw [h_position] at h_choose
    have h_name : names[position]? = some node := h_choose
    refine h_all.bind_ok fun run' h_follows _ => .of_eq h_follows.settled ?_
    have h_found : (({ stage with rendering } : Browser).references names)[position]?
        = some ⟨node, rendering⟩ := by
      rw [Browser.references, List.getElem?_map, h_name, Option.map_some]
    have h_pick : own.pick position (({ stage with rendering } : Browser).references names)
        = .ok ⟨node, rendering⟩ := by
      rw [pick, h_found]
    rw [h_pick]
    rfl

end Link

namespace Handle

variable {W : Type} {context : Context W}

/-- An answer other than staleness is passed on. -/
theorem run_recovering_of_ne_stale {run run' : Run W} {refind : Action W Reference}
    {operation : String} {call : ElementCall} {answer : Except Fault call.Answer}
    (h_ask : run.exchange context.driver (.element (run.referenceAt own.id) call) = (answer, run'))
    (h_ne : answer ≠ .error .stale) :
    recovering ⟨own, ancestors⟩ refind operation call context run
      = (answer.mapError fun fault => .ofFault fault own.context operation, run') := by
  have h_reference : own.reference context run = (.ok (run.referenceAt own.id), run) := rfl
  have h_run : Action.ask (.element (run.referenceAt own.id) call) context run = _ :=
    Action.run_ask (.element (run.referenceAt own.id) call) run
  rw [h_ask] at h_run
  rw [recovering, Action.run_bind_ok h_reference, Action.run_bind_ok h_run]
  rcases answer with fault | value
  · cases fault with
    | stale => exact absurd rfl h_ne
    | _ => rfl
  · rfl

/-- After staleness the answer of the second call is passed on, whatever it is. -/
theorem run_recovering_of_stale {run run' run'' : Run W} {refind : Action W Reference}
    {operation : String} {call : ElementCall}
    (h_ask : run.exchange context.driver (.element (run.referenceAt own.id) call)
      = (.error .stale, run'))
    (h_reload : reload ⟨own, ancestors⟩ refind context run' = (.ok (), run'')) :
    recovering ⟨own, ancestors⟩ refind operation call context run
      = ((run''.exchange context.driver (.element (run''.referenceAt own.id) call)).1.mapError
          fun fault => .ofFault fault own.context operation,
        (run''.exchange context.driver (.element (run''.referenceAt own.id) call)).2) := by
  have h_reference : own.reference context run = (.ok (run.referenceAt own.id), run) := rfl
  have h_again : own.reference context run'' = (.ok (run''.referenceAt own.id), run'') := rfl
  have h_run : Action.ask (.element (run.referenceAt own.id) call) context run = _ :=
    Action.run_ask (.element (run.referenceAt own.id) call) run
  rw [h_ask] at h_run
  rw [recovering, Action.run_bind_ok h_reference, Action.run_bind_ok h_run]
  show (reload ⟨own, ancestors⟩ refind >>= fun _ => own.reference >>= fun reference =>
    Action.ask (.element reference call) >>= fun again =>
      Action.answered own.context operation again) context run' = _
  rw [Action.run_bind_ok h_reload, Action.run_bind_ok h_again,
    Action.run_bind_ok (Action.run_ask _ _), Action.run_answered]

/-- A call to an element leaves the handles in their places. -/
theorem exchange_element (h : Settled stage run) (h_calm : stage.Calm) (reference : Reference)
    {call : ElementCall} (h_call : call.isQuery = true) :
    ∃ run', run.exchange Browser.driver (.element reference call)
        = (if reference.rendering = run.world.rendering
            then stage.answerIn run.world.rendering reference.node call else .error .stale, run')
      ∧ run'.references = run.references ∧ Follows stage run run'
      ∧ run'.world.rendering = run.world.rendering := by
  have h_answer := h.shows.elementAnswer_eq h_calm reference h_call
  have h_exchange : run.exchange Browser.driver (.element reference call)
      = ((run.world.elementAnswer reference call).1, { run with
          world := (run.world.elementAnswer reference call).2
          transcript := ⟨.element reference call, (run.world.elementAnswer reference call).1,
            run.memory⟩ :: run.transcript }) := rfl
  rw [h_answer] at h_exchange
  exact ⟨_, h_exchange, rfl, .of_world h h.shows, rfl⟩

/-- A handle that memoizes itself leaves the handles in their places. -/
theorem memoize_settled (page : Page) (h : Settled stage run)
    (h_placed : Placed stage run own ancestors) :
    ∃ run', memoize ⟨own, ancestors⟩ ⟨Browser.driver, page⟩ run = (.ok (), run')
      ∧ run'.references = run.references ∧ Follows stage run run'
      ∧ run'.world.rendering = run.world.rendering := by
  cases h_slot : own.slot with
  | none => exact ⟨run, by simp only [memoize, h_slot]; rfl, rfl, .refl h, rfl⟩
  | some slot =>
    cases h_memoizes : own.memoizes with
    | false =>
      exact ⟨run, by simp only [memoize, h_slot, h_memoizes]; rfl, rfl, .refl h, rfl⟩
    | true =>
      refine ⟨{ run with memory := { run.memory with
          cache := run.memory.cache.put slot (.elements (.one ⟨own, ancestors⟩)) } }, ?_, rfl,
        .of_remember h slot (.one h_placed), rfl⟩
      simp only [memoize, h_slot, h_memoizes]
      rfl

/-- A reload gives the handle a reference to its node in the present rendering. -/
theorem reload_settled {refind : Action Browser Reference} {node : String} {rendering : Nat}
    (h : Settled stage run) (h_placed : Placed stage run own ancestors)
    (h_node : node = run.nodeAt own.id)
    (h_refind : Gives stage page run refind (.ok ⟨node, rendering⟩)) :
    ∃ run', reload ⟨own, ancestors⟩ refind ⟨Browser.driver, page⟩ run = (.ok (), run')
      ∧ run'.references.find? own.id = some ⟨node, rendering⟩ ∧ Follows stage run run'
      ∧ run'.world.rendering = run.world.rendering := by
  obtain ⟨found, h_found, h_follows, h_rendering⟩ := h_refind
  have h_set : Follows stage found
      { found with references := found.references.put own.id ⟨node, rendering⟩ } := by
    refine .of_reference h_follows.settled own fun _ => ?_
    rw [h_follows.nodeAt_eq _ h_placed.id_lt, ← h_node]
  obtain ⟨run', h_run', h_references, h_follows', h_rendering'⟩ :=
    memoize_settled page h_set.settled ((h_follows.trans h_set).placed h_placed)
  refine ⟨run', ?_, ?_, (h_follows.trans h_set).trans h_follows', h_rendering'.trans h_rendering⟩
  · rw [reload, Action.run_bind_ok (Link.run_requirePage own h.present),
      Action.run_bind_ok h_found]
    exact h_run'
  · rw [h_references, Keyed.find?_put_self]

/-- Given that its query finds the node again, a handle passes on the answer of the node. -/
theorem recovering_settled {refind : Action Browser Reference} {operation : String}
    {call : ElementCall} (h_calm : stage.Calm) (h : Settled stage run)
    (h_placed : Placed stage run own ancestors) (h_call : call.isQuery = true)
    (h_refind : ∀ run', Follows stage run run' → run'.world.rendering = run.world.rendering →
      Gives stage page run' refind (.ok ⟨run.nodeAt own.id, run.world.rendering⟩)) :
    Gives stage page run (recovering ⟨own, ancestors⟩ refind operation call)
      ((stage.answerIn run.world.rendering (run.nodeAt own.id) call).mapError
        fun fault => .ofFault fault own.context operation) := by
  obtain ⟨asked, h_asked, h_references, h_follows, h_rendering⟩ :=
    exchange_element h h_calm (run.referenceAt own.id) h_call
  by_cases h_live : (run.referenceAt own.id).rendering = run.world.rendering
  · rw [if_pos h_live] at h_asked
    exact ⟨asked, run_recovering_of_ne_stale h_asked (Browser.answerIn_ne_stale _ _ h_call),
      h_follows, h_rendering⟩
  · rw [if_neg h_live] at h_asked
    have h_same : run.nodeAt own.id = asked.nodeAt own.id :=
      (h_follows.nodeAt_eq _ h_placed.id_lt).symm
    obtain ⟨found, h_reload, h_found, h_follows', h_rendering'⟩ :=
      reload_settled h_follows.settled (h_follows.placed h_placed) h_same
        (h_refind asked h_follows h_rendering)
    -- the reference is of the present rendering now, so that the second call reaches the node
    obtain ⟨again, h_again, -, h_follows'', h_rendering''⟩ :=
      exchange_element h_follows'.settled h_calm (found.referenceAt own.id) h_call
    have h_fresh : found.referenceAt own.id = ⟨run.nodeAt own.id, run.world.rendering⟩ := by
      rw [Run.referenceAt, h_found, Option.getD_some]
    have h_now : found.world.rendering = run.world.rendering := h_rendering'.trans h_rendering
    rw [if_pos (by rw [h_fresh, h_now]), h_now] at h_again
    refine ⟨again, ?_, (h_follows.trans h_follows').trans h_follows'', h_rendering''.trans h_now⟩
    rw [run_recovering_of_stale h_asked h_reload, h_again, h_fresh]

/-- A query through a placed handle has the answer of the node that its reference names, whichever
    references are stale. -/
theorem request_settled (operation : String) (call : ElementCall) (h_calm : stage.Calm)
    (h : Settled stage run) (h_placed : Placed stage run own ancestors)
    (h_call : call.isQuery = true) :
    Gives stage page run (request own ancestors operation call)
      ((stage.answerIn run.world.rendering (run.nodeAt own.id) call).mapError
        fun fault => .ofFault fault own.context operation) := by
  have h_denoted := h_placed.denoted
  induction ancestors generalizing run own operation call with
  | nil =>
    -- the query is made in the document
    rw [request]
    refine recovering_settled h_calm h h_placed h_call fun run' h_follows h_rendering => ?_
    rw [← h_rendering]
    exact Link.refind_settled (.find h_follows.settled own.locator own.context reloading)
      (.findAll h_follows.settled own.locator own.context reloading) h_denoted
  | cons parent rest ih =>
    -- the query is made under the element around, which is placed itself
    have h_parent : Placed stage run parent rest := h_placed.2.2
    rw [request]
    refine recovering_settled h_calm h h_placed h_call fun run' h_follows h_rendering => ?_
    have h_names : matchAt own.position ((stage.node (run'.nodeAt parent.id)).namesIn own.locator)
        = some (run.nodeAt own.id) := by
      rw [h_follows.nodeAt_eq _ h_parent.id_lt]
      rw [Browser.denoted?, h_parent.denoted] at h_denoted
      exact h_denoted
    rw [← h_rendering]
    have h_outer := h_follows.placed h_parent
    have h_first := ih reloading (.find own.locator) h_follows.settled
      h_outer rfl h_outer.denoted
    have h_all := ih reloading (.findAll own.locator) h_follows.settled
      h_outer rfl h_outer.denoted
    exact Link.refind_settled h_first h_all h_names

end Handle
end PageObjects
