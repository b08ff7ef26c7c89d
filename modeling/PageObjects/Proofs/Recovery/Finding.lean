/-
  PageObjects.Proofs.Recovery.Finding

  What lookups inside an element find. On a page whose nodes do not change, the
  children of a node under a locator are known, so that it is known whether a lookup
  succeeds and which node each new handle names.

    * `Names`: a handle is placed, and its reference names a node.
    * `Handle.find_names`, `Handle.findAll_names`: the nodes that new handles name.
    * `Succeeds`: the action gives a result, in a run that follows.
    * `Handle.find_succeeds`, `Handle.findAll_succeeds`: a child that is there is found,
      and so are all children, be they none.
-/

import Mathlib.Data.List.Forall2
import PageObjects.Proofs.Recovery.Lookup

namespace PageObjects

open PageObjects.Action

variable {stage : Browser} {page : Page} {start run run' : Run Browser} {α β : Type}

-- ============================================================================
-- Nodes of handles
-- ============================================================================

/-- The handle is placed, and its reference names the node. -/
def Names (stage : Browser) (run : Run Browser) (handle : Handle) (node : String) : Prop :=
  Placed stage run handle.own handle.ancestors ∧ run.nodeAt handle.own.id = node

theorem Follows.names {handle : Handle} {node : String} (h : Follows stage run run')
    (h_names : Names stage run handle node) : Names stage run' handle node := by
  obtain ⟨h_placed, rfl⟩ := h_names
  exact ⟨h.placed h_placed, h.nodeAt_eq _ h_placed.id_lt⟩

theorem Follows.names_all {handles : List Handle} {nodes : List String}
    (h : Follows stage run run') (h_names : List.Forall₂ (Names stage run) handles nodes) :
    List.Forall₂ (Names stage run') handles nodes :=
  h_names.imp fun _ _ => h.names

/-- The nodes that an element finds, by the node of the element. -/
def Browser.below (browser : Browser) (node xpath : String) : List String :=
  (browser.node node).namesIn (.xpath xpath)

namespace Leads

variable {post post' : α → Run Browser → Prop}

theorem and {action : Action Browser α} (h : Leads stage page start action post)
    (h' : Leads stage page start action post') :
    Leads stage page start action fun a run => post a run ∧ post' a run := by
  intro run h_follows
  have h_end := h run h_follows
  have h_end' := h' run h_follows
  rcases h_run : action ⟨Browser.driver, page⟩ run with ⟨e | a, run'⟩
  · rw [h_run] at h_end
    exact h_end
  · rw [h_run] at h_end h_end'
    exact ⟨h_end.1, h_end.2, h_end'.2⟩

theorem weaken {action : Action Browser α} (h : Leads stage page start action post)
    (h_post : ∀ a run, post a run → post' a run) : Leads stage page start action post' :=
  Triple.weaken h (fun _ h_run => h_run) (fun a run h_end => ⟨h_end.1, h_post a run h_end.2⟩)
    fun _ _ h_run => h_run

theorem tryCatch {x : Action Browser α} {handle : PageError → Action Browser α}
    (h_x : Leads stage page start x post) (h_handle : ∀ e, Leads stage page start (handle e) post) :
    Leads stage page start (tryCatch x handle) post := by
  intro run h_follows
  have h_end := h_x run h_follows
  rw [run_tryCatch]
  rcases h_run : x ⟨Browser.driver, page⟩ run with ⟨e | a, run'⟩
  · rw [h_run] at h_end
    exact h_handle e run' h_end
  · rw [h_run] at h_end
    exact h_end

theorem orMiss {x : Action Browser α} (miss : PageError) (h_x : Leads stage page start x post) :
    Leads stage page start (orMiss miss x) post :=
  .tryCatch h_x fun _ => .throw _

theorem throw_bind (e : PageError) (f : β → Action Browser α) :
    Leads stage page start (MonadExcept.throw e >>= f) post := by
  have h_never : Leads stage page start (MonadExcept.throw e : Action Browser β) fun _ _ => False :=
    .throw e
  exact .bind h_never fun _ _ _ h_none => h_none.elim

/-- A result that does not depend on the run. -/
theorem lift (result : Except PageError α) :
    Leads stage page start (liftM result : Action Browser α) fun a _ => result = .ok a := by
  cases result with
  | error e => exact .throw e
  | ok a => exact .pure fun _ _ => rfl

theorem keeps {action : Action Browser α} (h : Leads stage page start action post) :
    Keeps ⟨Browser.driver, page⟩ (Follows stage start) action :=
  Triple.weaken h (fun _ h_run => h_run) (fun _ _ h_end => h_end.1) fun _ _ h_run => h_run

/-- What is known of the results of an action is known of the one that it has given. -/
theorem of_ok {action : Action Browser α} {post : α → Prop} {a : α}
    (h : Leads stage page start action fun a _ => post a) (h_start : Settled stage start)
    (h_ok : (action ⟨Browser.driver, page⟩ start).1 = .ok a) : post a := by
  have h_end := h start (.refl h_start)
  rcases h_run : action ⟨Browser.driver, page⟩ start with ⟨result, run⟩
  rw [h_run] at h_ok h_end
  obtain rfl : result = .ok a := h_ok
  exact h_end.2

end Leads

namespace Handle

variable {ancestors : List Link} {names : List String} {handle : Handle}

/-- The handle of the match of a query names it. -/
theorem register_names (locator : Locator) (slot : Option String) (memoizes : Bool)
    {position : Option Nat} {reference : Reference} (h_around : Around stage start ancestors)
    (h_names : stage.namesUnder? locator ancestors = some names)
    (h_node : matchAt position names = some reference.node) :
    Leads stage page start (register locator slot memoizes position ancestors reference)
      fun handle run => Names stage run handle reference.node := by
  have h_named : Leads stage page start
      (register locator slot memoizes position ancestors reference)
      fun handle run => run.nodeAt handle.own.id = reference.node := by
    intro run h_follows
    refine ⟨h_follows.trans (.of_register h_follows.settled reference), ?_⟩
    show Run.nodeAt _ run.nextId = reference.node
    rw [Run.nodeAt, Run.referenceAt, Keyed.find?_put_self]
    rfl
  exact (register_leads locator slot memoizes h_around h_names h_node).and h_named

/-- The handles of all matches of a query name them, counted from the position of the first. -/
theorem registerAll_names (locator : Locator) (slot : Option String) {position : Nat}
    {references : List Reference} (h_around : Around stage start ancestors)
    (h_names : stage.namesUnder? locator ancestors = some names)
    (h_nodes : references.map Reference.node = names.drop position) :
    Leads stage page start (registerAll locator slot ancestors position references)
      fun handles run => List.Forall₂ (Names stage run) handles (names.drop position) := by
  induction references generalizing position start with
  | nil =>
    have h_none : names.drop position = [] := h_nodes.symm
    rw [h_none]
    exact .pure fun _ _ => .nil
  | cons reference rest ih =>
    have h_node : matchAt (some position) names = some reference.node := by
      show names[position]? = _
      rw [← List.head?_drop, ← h_nodes]
      rfl
    have h_rest : rest.map Reference.node = names.drop (position + 1) := by
      rw [← List.tail_drop, ← h_nodes]
      rfl
    refine .bind (register_names locator slot false h_around h_names h_node)
      fun handle run h_follows h_first => ?_
    refine .bind (ih (h_follows.around h_around) h_rest) fun handles run' h_follows' h_others => ?_
    refine .pure fun run'' h_follows'' => ?_
    rw [← h_nodes, List.map_cons]
    refine .cons ((h_follows'.trans h_follows'').names h_first) ?_
    rw [h_rest]
    exact h_follows''.names_all h_others

/-- The first element inside a placed one names the first of the children. -/
theorem find_names (h_calm : stage.Calm) {node : String} (h_handle : Names stage start handle node)
    (xpath : String) :
    Leads stage page start (handle.find (.xpath xpath)) fun found run =>
      ∃ child, (stage.below node xpath).head? = some child ∧ Names stage run found child := by
  obtain ⟨h_placed, rfl⟩ := h_handle
  refine .bind (performFind_leads h_calm h_placed (.xpath xpath))
    fun reference run h_follows h_node => ?_
  have h_register : Leads stage page run
      (register (.xpath xpath) none false none handle.chain reference)
      fun found run' => Names stage run' found reference.node :=
    register_names (.xpath xpath) none false (h_follows.placed h_placed)
      (namesUnder?_chain h_placed (.xpath xpath)) h_node
  exact h_register.weaken fun found run' h_names => ⟨reference.node, h_node, h_names⟩

/-- All elements inside a placed one name the children, in order. -/
theorem findAll_names (h_calm : stage.Calm) {node : String}
    (h_handle : Names stage start handle node) (xpath : String) :
    Leads stage page start (handle.findAll (.xpath xpath)) fun found run =>
      List.Forall₂ (Names stage run) found (stage.below node xpath) := by
  obtain ⟨h_placed, rfl⟩ := h_handle
  refine .bind (performFindAll_leads h_calm h_placed (.xpath xpath))
    fun references run h_follows h_nodes => ?_
  exact registerAll_names (.xpath xpath) none (h_follows.placed h_placed)
    (namesUnder?_chain h_placed (.xpath xpath)) h_nodes

end Handle

-- ============================================================================
-- Actions that succeed
-- ============================================================================

/-- The action gives a result that satisfies `post`, in a run that follows. -/
def Succeeds (stage : Browser) (page : Page) (run : Run Browser) (action : Action Browser α)
    (post : α → Run Browser → Prop) : Prop :=
  ∃ a run', action ⟨Browser.driver, page⟩ run = (.ok a, run') ∧ Follows stage run run' ∧ post a run'

namespace Succeeds

variable {post post' : α → Run Browser → Prop}

theorem result_eq {action : Action Browser α} {a : α}
    (h : Succeeds stage page run action fun b _ => b = a) :
    (action ⟨Browser.driver, page⟩ run).1 = .ok a := by
  obtain ⟨_, run', h_run, -, rfl⟩ := h
  rw [h_run]

theorem pure {a : α} (h : Settled stage run) (h_post : post a run) :
    Succeeds stage page run (Pure.pure a : Action Browser α) post :=
  ⟨a, run, rfl, .refl h, h_post⟩

theorem of_gives {action : Action Browser α} {a : α} (h : Gives stage page run action (.ok a)) :
    Succeeds stage page run action fun b _ => b = a := by
  obtain ⟨run', h_run, h_follows, -⟩ := h
  exact ⟨a, run', h_run, h_follows, rfl⟩

theorem bind {x : Action Browser α} {f : α → Action Browser β} {post' : β → Run Browser → Prop}
    (h_x : Succeeds stage page run x post)
    (h_f : ∀ a run', Follows stage run run' → post a run' → Succeeds stage page run' (f a) post') :
    Succeeds stage page run (x >>= f) post' := by
  obtain ⟨a, run', h_run, h_follows, h_post⟩ := h_x
  obtain ⟨b, run'', h_run', h_follows', h_post'⟩ := h_f a run' h_follows h_post
  refine ⟨b, run'', ?_, h_follows.trans h_follows', h_post'⟩
  rw [run_bind_ok h_run, h_run']

theorem tryCatch {x : Action Browser α} (h : Succeeds stage page run x post)
    (handle : PageError → Action Browser α) :
    Succeeds stage page run (tryCatch x handle) post := by
  obtain ⟨a, run', h_run, h_end⟩ := h
  refine ⟨a, run', ?_, h_end⟩
  rw [run_tryCatch, h_run]

theorem lift {result : Except PageError α} {a : α} (h : Settled stage run) (h_ok : result = .ok a) :
    Succeeds stage page run (liftM result : Action Browser α) fun b _ => b = a := by
  subst h_ok
  exact .pure h rfl

theorem weaken {action : Action Browser α} (h : Succeeds stage page run action post)
    (h_post : ∀ a run', post a run' → post' a run') : Succeeds stage page run action post' := by
  obtain ⟨a, run', h_run, h_follows, h_end⟩ := h
  exact ⟨a, run', h_run, h_follows, h_post a run' h_end⟩

/-- An action that succeeds in every run that follows leads where it succeeds. -/
theorem leads {action : Action Browser α}
    (h : ∀ run, Follows stage start run → Succeeds stage page run action post) :
    Leads stage page start action post := by
  intro run h_follows
  obtain ⟨a, run', h_run, h_follows', h_post⟩ := h run h_follows
  rw [h_run]
  exact ⟨h_follows.trans h_follows', h_post⟩

/-- An action that gives some result gives one that is known of its results. -/
theorem of_leads {action : Action Browser α} (h : Leads stage page run action post)
    (h_run : Settled stage run)
    (h_ok : ∃ a run', action ⟨Browser.driver, page⟩ run = (.ok a, run')) :
    Succeeds stage page run action post := by
  obtain ⟨a, run', h_ok⟩ := h_ok
  have h_end := h run (.refl h_run)
  rw [h_ok] at h_end
  exact ⟨a, run', h_ok, h_end⟩

end Succeeds

namespace Handle

variable {handle : Handle} {node : String}

/-- A child that is there is found. -/
theorem find_succeeds (h_calm : stage.Calm) (h : Settled stage run)
    (h_handle : Names stage run handle node) {xpath child : String}
    (h_child : (stage.below node xpath).head? = some child) :
    Succeeds stage page run (handle.find (.xpath xpath)) fun found run' =>
      Names stage run' found child := by
  obtain ⟨h_placed, h_node⟩ := h_handle
  have h_known : Leads stage page run (handle.find (.xpath xpath))
      fun found run' => Names stage run' found child := by
    refine (find_names h_calm ⟨h_placed, h_node⟩ xpath).weaken fun found run' h_found => ?_
    obtain ⟨other, h_other, h_names⟩ := h_found
    obtain rfl : child = other := Option.some.inj (h_child.symm.trans h_other)
    exact h_names
  have h_perform : Gives stage page run (handle.perform (.find (.xpath xpath)))
      ((stage.answerIn run.world.rendering (run.nodeAt handle.own.id)
        (.find (.xpath xpath))).mapError fun fault =>
          .ofFault fault handle.own.context "find_element") :=
    request_settled "find_element" (.find (.xpath xpath)) h_calm h h_placed rfl
  have h_answer : stage.answerIn run.world.rendering (run.nodeAt handle.own.id)
      (.find (.xpath xpath)) = .ok ⟨child, run.world.rendering⟩ := by
    obtain ⟨rest, h_names⟩ := List.head?_eq_some_iff.mp h_child
    rw [← h_node] at h_names
    show Browser.first _ (Browser.references _ (stage.below _ xpath)) = _
    rw [h_names]
    rfl
  rw [h_answer] at h_perform
  obtain ⟨found, h_run, -⟩ := h_perform
  obtain ⟨new, run', h_new, -⟩ := register_ok ⟨Browser.driver, page⟩ (.xpath xpath) none false none
    handle.chain ⟨child, run.world.rendering⟩ found
  refine .of_leads h_known h ⟨new, run', ?_⟩
  rw [find, run_bind_ok h_run, h_new]

/-- All children are found, be they none. -/
theorem findAll_succeeds (h_calm : stage.Calm) (h : Settled stage run)
    (h_handle : Names stage run handle node) (xpath : String) :
    Succeeds stage page run (handle.findAll (.xpath xpath)) fun found run' =>
      List.Forall₂ (Names stage run') found (stage.below node xpath) := by
  have h_perform : Gives stage page run (handle.perform (.findAll (.xpath xpath)))
      (.ok (({ stage with rendering := run.world.rendering } : Browser).references
        (stage.below (run.nodeAt handle.own.id) xpath))) :=
    request_settled "find_elements" (.findAll (.xpath xpath)) h_calm h h_handle.1 rfl
  obtain ⟨found, h_run, -⟩ := h_perform
  obtain ⟨handles, run', h_new, -⟩ := registerAll_ok ⟨Browser.driver, page⟩ (.xpath xpath) none
    handle.chain 0 _ found
  refine .of_leads (findAll_names h_calm h_handle xpath) h ⟨handles, run', ?_⟩
  rw [findAll, run_bind_ok h_run, h_new]

/-- The value of an attribute, or an empty text where there is none, is that of the node. -/
theorem attribute_gives (h_calm : stage.Calm) (h : Settled stage run)
    (h_handle : Names stage run handle node) (name : String) :
    Gives stage page run (do return (← handle.attributeValue name).getD "" : Action Browser String)
      (.ok (((stage.node node).attributes.find? name).getD "")) := by
  obtain ⟨h_placed, rfl⟩ := h_handle
  have h_attribute : Gives stage page run (handle.attributeValue name)
      (.ok ((stage.node (run.nodeAt handle.own.id)).attributes.find? name)) :=
    request_settled "attribute" (.attribute name) h_calm h h_placed rfl
  exact h_attribute.bind_ok fun run' h_follows _ => .pure h_follows.settled _

/-- The markup of what an element contains is that of its node. -/
theorem innerHtml_leads (h_calm : stage.Calm) (h_handle : Names stage start handle node) :
    Leads stage page start handle.innerHtml fun markup _ =>
      markup = ((stage.node node).attributes.find? "innerHTML").getD "" :=
  .of_gives
    (fun _ h_follows => attribute_gives h_calm h_follows.settled (h_follows.names h_handle) _)
    fun _ _ _ _ h_result => (Except.ok.inj h_result).symm

/-- The markup of an element is that of its node. -/
theorem outerHtml_gives (h_calm : stage.Calm) (h : Settled stage run)
    (h_handle : Names stage run handle node) : Gives stage page run handle.outerHtml
      (.ok (((stage.node node).attributes.find? "outerHTML").getD "")) :=
  attribute_gives h_calm h h_handle "outerHTML"

theorem outerHtml_leads (h_calm : stage.Calm)
    (h_placed : Placed stage start handle.own handle.ancestors) :
    Leads stage page start handle.outerHtml fun _ _ => True :=
  .of_gives (fun _ h_follows => outerHtml_gives h_calm h_follows.settled
    ⟨h_follows.placed h_placed, rfl⟩) fun _ _ _ _ _ => trivial

end Handle

end PageObjects
