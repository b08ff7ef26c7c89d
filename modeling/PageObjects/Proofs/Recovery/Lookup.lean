/-
  PageObjects.Proofs.Recovery.Lookup

  Every lookup gives placed handles. A lookup makes a query, in the document or
  through a placed handle, and registers what was found with the query that found
  it; or it gives the handles that the page remembers, which are placed as well.

    * `Leads` is the triple that all steps of lookups are stated with.
    * `register_leads`, `registerAll_leads`: the handle of the match of a query is
      placed, and so are those of all matches.
    * `resolve_leads`, `find_leads`, `findAll_leads`: the lookups of a page.
    * `Handle.find_leads`, `Handle.findAll_leads`: the lookups inside an element.
-/

import PageObjects.Proofs.Action.Lasting
import PageObjects.Proofs.Recovery.Request

namespace PageObjects

open PageObjects.Action

variable {stage : Browser} {page : Page} {start run : Run Browser} {α β : Type}

/-- The action leads to a run that follows the start; its result satisfies `post`. -/
def Leads (stage : Browser) (page : Page) (start : Run Browser) (action : Action Browser α)
    (post : α → Run Browser → Prop) : Prop :=
  Triple ⟨Browser.driver, page⟩ (Follows stage start) action
    (fun a run => Follows stage start run ∧ post a run) (fun _ => Follows stage start)

namespace Leads

variable {post : α → Run Browser → Prop}

theorem pure {a : α} (h : ∀ run, Follows stage start run → post a run) :
    Leads stage page start (Pure.pure a : Action Browser α) post :=
  Triple.pure fun run h_follows => ⟨h_follows, h run h_follows⟩

theorem throw (e : PageError) : Leads stage page start (throw e : Action Browser α) post :=
  Triple.throw fun _ h_follows => h_follows

/-- The second step starts where the first one ends. -/
theorem bind {x : Action Browser α} {f : α → Action Browser β} {post' : β → Run Browser → Prop}
    (h_x : Leads stage page start x post)
    (h_f : ∀ a run, Follows stage start run → post a run → Leads stage page run (f a) post') :
    Leads stage page start (x >>= f) post' := by
  refine Triple.bind h_x fun a run ⟨h_follows, h_post⟩ => ?_
  have h_rest := h_f a run h_follows h_post run (.refl h_follows.settled)
  rcases h_end : f a ⟨Browser.driver, page⟩ run with ⟨e | b, run'⟩
  · rw [h_end] at h_rest
    exact h_follows.trans h_rest
  · rw [h_end] at h_rest
    exact ⟨h_follows.trans h_rest.1, h_rest.2⟩

theorem of_keeps {action : Action Browser α}
    (h : Keeps ⟨Browser.driver, page⟩ (Follows stage start) action) :
    Leads stage page start action fun _ _ => True :=
  h.weaken (fun _ h_follows => h_follows) (fun _ _ h_follows => ⟨h_follows, trivial⟩)
    fun _ _ h_follows => h_follows

/-- An action whose result is known in every run that follows the start. -/
theorem of_gives {action : Action Browser α} {result : Run Browser → Except PageError α}
    (h : ∀ run, Follows stage start run → Gives stage page run action (result run))
    (h_post : ∀ run run' a, Follows stage start run → result run = .ok a → post a run') :
    Leads stage page start action post := by
  intro run h_follows
  obtain ⟨run', h_run, h_follows', -⟩ := h run h_follows
  rw [h_run]
  rcases h_result : result run with e | a
  · exact h_follows.trans h_follows'
  · exact ⟨h_follows.trans h_follows', h_post run run' a h_follows h_result⟩

/-- What is known of the results of an action in any run. -/
theorem and_ok {action : Action Browser α} {good : α → Prop}
    (h : Leads stage page start action post)
    (h_ok : ∀ run, ∃ a run', action ⟨Browser.driver, page⟩ run = (.ok a, run') ∧ good a) :
    Leads stage page start action fun a run => post a run ∧ good a := by
  intro run h_follows
  obtain ⟨a, run', h_run, h_good⟩ := h_ok run
  have h_end := h run h_follows
  rw [h_run] at h_end ⊢
  exact ⟨h_end.1, h_end.2, h_good⟩

end Leads

/-- Whatever leads to no element does not move the handles, be it a call, a pause or a departure. -/
theorem Follows.lasting (h_calm : stage.Calm) :
    Lasting ⟨Browser.driver, page⟩ (Follows stage start) where
  exchange _ _ _ h_harmless h_follows :=
    h_follows.trans (.exchange h_follows.settled h_calm h_harmless)
  pause _ _ h_follows := h_follows.trans (.of_world h_follows.settled
    ⟨h_follows.settled.shows.nodes, h_follows.settled.shows.document⟩)
  forget _ h_follows := h_follows.trans (.forget h_follows.settled)
  depart _ _ _ _ h_follows := h_follows.trans (.exchange h_follows.settled h_calm rfl)

-- ============================================================================
-- New handles
-- ============================================================================

namespace Handle

variable {ancestors : List Link} {names : List String}

/-- The handle of the match of a query is placed. -/
theorem register_leads (locator : Locator) (slot : Option String) (memoizes : Bool)
    {position : Option Nat} {reference : Reference} (h_around : Around stage start ancestors)
    (h_names : stage.namesUnder? locator ancestors = some names)
    (h_node : matchAt position names = some reference.node) :
    Leads stage page start (register locator slot memoizes position ancestors reference)
      fun handle run => Placed stage run handle.own handle.ancestors := by
  intro run h_follows
  have h_new := Follows.of_register h_follows.settled reference
  refine ⟨h_follows.trans h_new, .intro (Nat.lt_succ_self run.nextId) ?_ ?_⟩
  · show stage.denoted? ⟨run.nextId, locator, slot, memoizes, position⟩ ancestors = _
    rw [Browser.denoted?_eq, h_names, Option.bind_some, h_node, Run.nodeAt, Run.referenceAt,
      Keyed.find?_put_self]
    rfl
  · exact (h_follows.trans h_new).around h_around

/-- The handles of all matches of a query are placed, counted from the position of the first. -/
theorem registerAll_leads (locator : Locator) (slot : Option String) {position : Nat}
    {references : List Reference} (h_around : Around stage start ancestors)
    (h_names : stage.namesUnder? locator ancestors = some names)
    (h_nodes : references.map Reference.node = names.drop position) :
    Leads stage page start (registerAll locator slot ancestors position references)
      fun handles run => PlacedAll stage run handles := by
  induction references generalizing position start with
  | nil => exact .pure fun _ _ _ h_mem => nomatch h_mem
  | cons reference rest ih =>
    have h_node : matchAt (some position) names = some reference.node := by
      show names[position]? = _
      rw [← List.head?_drop, ← h_nodes]
      rfl
    have h_rest : rest.map Reference.node = names.drop (position + 1) := by
      rw [← List.tail_drop, ← h_nodes]
      rfl
    refine .bind (register_leads locator slot false h_around h_names h_node)
      fun handle run h_follows h_first => ?_
    refine .bind (ih (h_follows.around h_around) h_rest) fun handles run' h_follows' h_others => ?_
    refine .pure fun run'' h_follows'' => ?_
    intro other h_mem
    rcases List.mem_cons.mp h_mem with rfl | h_mem
    · exact (h_follows'.trans h_follows'').placed h_first
    · exact h_follows''.placed (h_others other h_mem)

end Handle

-- ============================================================================
-- Queries
-- ============================================================================

namespace Browser

theorem map_node_references (browser : Browser) (names : List String) :
    (browser.references names).map Reference.node = names := by
  rw [references, List.map_map]
  exact List.map_id names

/-- The first match of a query is the first of the names. -/
theorem head?_of_first {browser : Browser} {locator : Locator} {names : List String}
    {toError : Fault → PageError} {reference : Reference}
    (h : (first locator (browser.references names)).mapError toError = .ok reference) :
    names.head? = some reference.node := by
  cases names with
  | nil => cases h
  | cons name rest =>
    obtain rfl : ⟨name, browser.rendering⟩ = reference := Except.ok.inj h
    rfl

end Browser

theorem sessionFind_leads (locator : Locator) (name operation : String) :
    Leads stage page start (sessionCall (.find locator) name operation)
      fun reference _ => (stage.namesIn locator).head? = some reference.node :=
  .of_gives (fun _ h_follows => .find h_follows.settled locator name operation)
    fun _ _ _ _ h_result => Browser.head?_of_first h_result

theorem sessionFindAll_leads (locator : Locator) (name operation : String) :
    Leads stage page start (sessionCall (.findAll locator) name operation)
      fun references _ => references.map Reference.node = stage.namesIn locator := by
  refine .of_gives (fun _ h_follows => .findAll h_follows.settled locator name operation)
    fun _ _ found _ h_result => ?_
  rw [← Except.ok.inj h_result]
  exact Browser.map_node_references _ _

namespace Handle

variable {handle : Handle}

theorem performFind_leads (h_calm : stage.Calm)
    (h_placed : Placed stage start handle.own handle.ancestors) (locator : Locator) :
    Leads stage page start (handle.perform (.find locator)) fun reference _ =>
      ((stage.node (start.nodeAt handle.own.id)).namesIn locator).head? = some reference.node := by
  refine .of_gives (fun _ h_follows => request_settled _ _ h_calm h_follows.settled
    (h_follows.placed h_placed) rfl) fun run _ found h_follows h_result => ?_
  rw [h_follows.nodeAt_eq _ h_placed.id_lt] at h_result
  exact Browser.head?_of_first h_result

theorem performFindAll_leads (h_calm : stage.Calm)
    (h_placed : Placed stage start handle.own handle.ancestors) (locator : Locator) :
    Leads stage page start (handle.perform (.findAll locator)) fun references _ =>
      references.map Reference.node
        = (stage.node (start.nodeAt handle.own.id)).namesIn locator := by
  refine .of_gives (fun _ h_follows => request_settled _ _ h_calm h_follows.settled
    (h_follows.placed h_placed) rfl) fun run _ found h_follows h_result => ?_
  rw [h_follows.nodeAt_eq _ h_placed.id_lt] at h_result
  rw [← Except.ok.inj h_result]
  exact Browser.map_node_references _ _

end Handle

-- ============================================================================
-- Lookups
-- ============================================================================

namespace Handle

variable {handle : Handle}

theorem namesUnder?_chain (h_placed : Placed stage start handle.own handle.ancestors)
    (locator : Locator) :
    stage.namesUnder? locator handle.chain
      = some ((stage.node (start.nodeAt handle.own.id)).namesIn locator) := by
  rw [chain, Browser.namesUnder?, h_placed.denoted]
  rfl

/-- The first element inside a placed one is placed. -/
theorem find_leads (h_calm : stage.Calm)
    (h_placed : Placed stage start handle.own handle.ancestors) (locator : Locator) :
    Leads stage page start (handle.find locator)
      fun found run => Placed stage run found.own found.ancestors := by
  refine .bind (performFind_leads h_calm h_placed locator) fun reference run h_follows h_node => ?_
  refine register_leads locator none false (h_follows.placed h_placed) ?_ h_node
  exact namesUnder?_chain h_placed locator

/-- All elements inside a placed one are placed. -/
theorem findAll_leads (h_calm : stage.Calm)
    (h_placed : Placed stage start handle.own handle.ancestors) (locator : Locator) :
    Leads stage page start (handle.findAll locator)
      fun found run => PlacedAll stage run found := by
  refine .bind (performFindAll_leads h_calm h_placed locator)
    fun references run h_follows h_nodes => ?_
  refine registerAll_leads locator none (h_follows.placed h_placed) ?_ h_nodes
  exact namesUnder?_chain h_placed locator

end Handle

namespace Binding

/-- What a query of the document finds is placed and whole. -/
theorem query_leads (binding : Binding) (slot : Option String) :
    Leads stage page start (binding.query slot) fun resolved run => Matched stage run resolved := by
  have h_names : stage.namesUnder? binding.locator [] = some (stage.namesIn binding.locator) := rfl
  rw [query]
  cases binding.cardinality with
  | one =>
    refine .bind (sessionFind_leads binding.locator _ _) fun reference run h_follows h_node => ?_
    refine .bind (Handle.register_leads binding.locator slot slot.isSome (Around.nil run) h_names
      h_node) fun handle run' _ h_placed => ?_
    exact .pure fun _ h_follows => h_follows.matched (.one h_placed)
  | many =>
    refine .bind (sessionFindAll_leads binding.locator _ _) fun references run _ h_nodes => ?_
    have h_missing : Leads stage page run
        (throw (.elementNotFound binding.locator.display) : Action Browser PUnit)
        fun _ _ => False := .throw _
    dsimp only
    split
    · exact .bind h_missing fun _ _ _ h_none => h_none.elim
    · rw [← List.drop_zero (l := stage.namesIn binding.locator)] at h_nodes
      have h_all := (Handle.registerAll_leads binding.locator slot (Around.nil run) h_names
        h_nodes).and_ok fun found => Handle.registerAll_ok ⟨Browser.driver, page⟩ _ _ [] 0 _ found
      refine .bind h_all fun handles found _ h_found => .pure fun last h_last => ?_
      obtain ⟨h_placed, h_length, h_new⟩ := h_found
      refine ⟨h_last.placedAll h_placed, fun other h_many handle h_mem => ?_⟩
      obtain rfl := Resolved.many.inj h_many
      rw [List.drop_zero] at h_nodes
      obtain ⟨index, h_index⟩ := List.mem_iff_getElem?.mp h_mem
      rw [(h_new index handle h_index).1, h_length, ← h_nodes, List.length_map]

/-- The handles that the page remembers are placed and whole. -/
theorem live?_leads (h_calm : stage.Calm) (slot : String) :
    Leads stage page start (live? slot)
      fun found run => ∀ resolved ∈ found, Matched stage run resolved := by
  have h_cached : Leads stage page start (cached? slot) fun cached run =>
      ∀ resolved, cached = some (.elements resolved) → Matched stage run resolved := by
    intro run h_follows
    exact ⟨h_follows, h_follows.settled.remembered slot⟩
  refine .bind h_cached fun cached run _ h_placed => ?_
  split
  · rename_i resolved
    split
    · exact .pure fun _ _ _ h_found => nomatch h_found
    · rename_i first rest _
      refine .bind (.of_keeps ((Follows.lasting h_calm).isStale first))
        fun stale run' h_follows' _ => .pure ?_
      intro last h_last found h_found
      cases stale with
      | true => cases h_found
      | false =>
        obtain rfl : resolved = found := Option.some.inj h_found
        exact (h_follows'.trans h_last).matched (h_placed resolved rfl)
  · exact .pure fun _ _ _ h_found => nomatch h_found

theorem remember_leads (slot : String) {resolved : Resolved}
    (h_matched : Matched stage start resolved) :
    Leads stage page start (remember slot (.elements resolved)) fun _ _ => True := by
  intro run h_follows
  exact ⟨h_follows.trans (.of_remember h_follows.settled slot (h_follows.matched h_matched)),
    trivial⟩

/-- The handles of a slot are placed and whole, be they remembered or found anew. -/
theorem resolve_leads (h_calm : stage.Calm) (binding : Binding) (slot : String) :
    Leads stage page start (binding.resolve slot)
      fun resolved run => Matched stage run resolved := by
  refine .bind (.of_keeps (Follows.lasting h_calm).checkOpened) fun _ run h_follows _ => ?_
  refine .bind (live?_leads h_calm slot) fun found run' h_follows' h_live => ?_
  cases found with
  | some resolved => exact .pure fun last h_last => h_last.matched (h_live resolved rfl)
  | none =>
    refine .bind (query_leads binding (some slot)) fun resolved asked _ h_matched => ?_
    refine .bind (remember_leads slot h_matched) fun _ kept h_kept _ => ?_
    exact .pure fun last h_last => (h_kept.trans h_last).matched h_matched

end Binding

namespace Page

/-- The first of some placed handles is placed. -/
theorem head_leads {resolved : Resolved} (h_placed : PlacedAll stage start resolved.toList) :
    Leads stage page start (resolved.head : Action Browser Handle)
      fun handle run => Placed stage run handle.own handle.ancestors := by
  rw [Resolved.head]
  split
  · exact .throw _
  · rename_i handle rest h_list
    refine .pure fun run h_follows => h_follows.placed (h_placed handle ?_)
    rw [h_list]
    exact List.mem_cons_self

theorem resolve_leads (h_calm : stage.Calm) (slot : String) :
    Leads stage page start (resolve slot) fun resolved run => Matched stage run resolved :=
  .bind (.of_keeps (Steady.declared _ _ _)) fun binding _ _ _ => binding.resolve_leads h_calm slot

end Page
end PageObjects
