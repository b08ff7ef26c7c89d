/-
  PageObjects.Proofs.Recovery.Looking

  Tests that look at a page and change no node of it. `Looking` is every state that
  such a test comes to: it opens the page, looks elements up on it and inside of
  elements that it has, reads them, and meanwhile the page is rendered anew any
  number of times. The handles that it has got are listed with the nodes that they
  named when it got them.

    * `Looking.placed` is the invariant, by induction on the steps of the test.
    * `looking_reads`: every handle of the list reads as its node, however deep it is,
      whichever position it has, and whatever has gone stale in the meantime.
-/

import PageObjects.Proofs.Recovery.Lookup

namespace PageObjects

open PageObjects.Action

-- ============================================================================
-- The steps of a test
-- ============================================================================

/-- A lookup, on the page or inside an element. -/
inductive Lookup where
  | element (slot : String)
  | elementList (slot : String)
  | find (locator : Locator)
  | findAll (locator : Locator)
  | inside (outer : Handle) (locator : Locator)
  | allInside (outer : Handle) (locator : Locator)

namespace Lookup

/-- The handles that a lookup gives. -/
def action : Lookup → Action Browser (List Handle)
  | element slot => do return [← Page.element slot]
  | elementList slot => Page.elementList slot
  | find locator => do return [← Page.find locator]
  | findAll locator => Page.findAll locator
  | inside outer locator => do return [← outer.find locator]
  | allInside outer locator => outer.findAll locator

/-- The handle of the element that a lookup looks inside of. -/
def outer? : Lookup → Option Handle
  | inside outer _ | allInside outer _ => some outer
  | _ => none

end Lookup

/-- The changes from outside that touch no node and nothing that the document finds. -/
def Change.isApart : Change → Bool
  | .rerender | .setUrl _ | .openWindow _ | .scriptResult _ _ | .addCookie _ _ | .pushLog _ _ => true
  | _ => false

/-- The handles that a lookup has given, with the nodes that their references name. -/
def gained : Except PageError (List Handle) × Run Browser → List (Handle × String)
  | (.ok handles, run) => handles.map fun handle => (handle, run.nodeAt handle.own.id)
  | (.error _, _) => []

/-- The states of a test that looks at a page: the handles that it has got, each with the node that
    it named then, and the run. -/
inductive Looking (stage : Browser) (page : Page) : List (Handle × String) → Run Browser → Prop
  | start : Looking stage page [] { world := stage }
  | change {hands : List (Handle × String)} {run : Run Browser} (change : Change) :
      Looking stage page hands run → change.isApart = true →
      Looking stage page hands { run with world := run.world.apply change }
  | visit {hands : List (Handle × String)} {run : Run Browser} (pattern : Option String)
      (params : List (String × String)) : Looking stage page hands run →
      Looking stage page hands (Page.visit pattern params ⟨Browser.driver, page⟩ run).2
  | redirect {hands : List (Handle × String)} {run : Run Browser} (url : String) :
      Looking stage page hands run →
      Looking stage page hands (Page.redirect url ⟨Browser.driver, page⟩ run).2
  | lookup {hands : List (Handle × String)} {run : Run Browser} (lookup : Lookup) :
      Looking stage page hands run → (∀ outer ∈ lookup.outer?, outer ∈ hands.map (·.1)) →
      Looking stage page (gained (lookup.action ⟨Browser.driver, page⟩ run) ++ hands)
        (lookup.action ⟨Browser.driver, page⟩ run).2
  | read {hands : List (Handle × String)} {run : Run Browser} {handle : Handle} (call : ElementCall) :
      Looking stage page hands run → handle ∈ hands.map (·.1) → call.isRead = true →
      Looking stage page hands (handle.perform call ⟨Browser.driver, page⟩ run).2

/-- Every read of a handle succeeds and gives what a node has. -/
structure ReadsAs (page : Page) (run : Run Browser) (handle : Handle) (node : Browser.Node) :
    Prop where
  tagName : (handle.tagName ⟨Browser.driver, page⟩ run).1 = .ok node.tag
  text : (handle.text ⟨Browser.driver, page⟩ run).1 = .ok node.text
  attributeValue : ∀ name,
    (handle.attributeValue name ⟨Browser.driver, page⟩ run).1 = .ok (node.attributes.find? name)
  value : (handle.value ⟨Browser.driver, page⟩ run).1 = .ok (node.attributes.find? "value")
  innerHtml : (handle.innerHtml ⟨Browser.driver, page⟩ run).1
    = .ok ((node.attributes.find? "innerHTML").getD "")
  outerHtml : (handle.outerHtml ⟨Browser.driver, page⟩ run).1
    = .ok ((node.attributes.find? "outerHTML").getD "")
  isDisplayed : (handle.isDisplayed ⟨Browser.driver, page⟩ run).1 = .ok node.isDisplayed
  isEnabled : (handle.isEnabled ⟨Browser.driver, page⟩ run).1 = .ok node.isEnabled
  isSelected : (handle.isSelected ⟨Browser.driver, page⟩ run).1 = .ok node.isSelected

variable {stage : Browser} {page : Page} {start run run' : Run Browser}
  {hands : List (Handle × String)}

-- ============================================================================
-- One step
-- ============================================================================

theorem Lookup.leads (h_calm : stage.Calm) (lookup : Lookup)
    (h_outer : ∀ outer ∈ lookup.outer?, Placed stage start outer.own outer.ancestors) :
    Leads stage page start lookup.action fun handles run => PlacedAll stage run handles := by
  have h_one : ∀ {x : Action Browser Handle}, Leads stage page start x
        (fun handle run => Placed stage run handle.own handle.ancestors) →
      Leads stage page start (do return [← x]) fun handles run => PlacedAll stage run handles := by
    intro x h_x
    refine .bind h_x fun handle run _ h_placed => .pure fun run' h_follows other h_mem => ?_
    obtain rfl := List.mem_singleton.mp h_mem
    exact h_follows.placed h_placed
  have h_list : ∀ {x : Action Browser Resolved}, Leads stage page start x
        (fun resolved run => Matched stage run resolved) →
      Leads stage page start (do return (← x).toList) fun handles run =>
        PlacedAll stage run handles := by
    intro x h_x
    exact .bind h_x fun resolved run _ h_matched => .pure fun run' h_follows =>
      h_follows.placedAll h_matched.placed
  have h_head : ∀ {x : Action Browser Resolved}, Leads stage page start x
        (fun resolved run => Matched stage run resolved) →
      Leads stage page start (do (← x).head) fun handle run =>
        Placed stage run handle.own handle.ancestors := by
    intro x h_x
    exact .bind h_x fun resolved run _ h_matched => Page.head_leads h_matched.placed
  cases lookup with
  | element slot => exact h_one (h_head (Page.resolve_leads h_calm slot))
  | elementList slot => exact h_list (Page.resolve_leads h_calm slot)
  | find locator => exact h_one (h_head (Binding.query_leads _ none))
  | findAll locator => exact h_list (Binding.query_leads _ none)
  | inside outer locator => exact h_one (Handle.find_leads h_calm (h_outer outer rfl) locator)
  | allInside outer locator => exact Handle.findAll_leads h_calm (h_outer outer rfl) locator

-- ============================================================================
-- Whole tests
-- ============================================================================

/-- Every handle of a list is placed, and its reference names the node that is listed with it. -/
structure InPlace (stage : Browser) (hands : List (Handle × String)) (run : Run Browser) :
    Prop where
  settled : Settled stage run
  placed : ∀ handle name, (handle, name) ∈ hands →
    Placed stage run handle.own handle.ancestors ∧ run.nodeAt handle.own.id = name

namespace InPlace

theorem follow (h : InPlace stage hands run) (h_follows : Follows stage run run') :
    InPlace stage hands run' := by
  refine ⟨h_follows.settled, fun handle name h_mem => ?_⟩
  obtain ⟨h_placed, h_name⟩ := h.placed handle name h_mem
  exact ⟨h_follows.placed h_placed, by rw [h_follows.nodeAt_eq _ h_placed.id_lt, h_name]⟩

theorem placed_of_mem {handle : Handle} (h : InPlace stage hands run)
    (h_mem : handle ∈ hands.map (·.1)) : Placed stage run handle.own handle.ancestors := by
  obtain ⟨⟨_, name⟩, h_pair, rfl⟩ := List.mem_map.mp h_mem
  exact (h.placed _ name h_pair).1

/-- A step that keeps what follows the run keeps every handle in its place. -/
theorem of_keeps {α : Type} {action : Action Browser α} (h : InPlace stage hands run)
    (h_keeps : Keeps ⟨Browser.driver, page⟩ (Follows stage run) action) :
    InPlace stage hands (action ⟨Browser.driver, page⟩ run).2 :=
  h.follow (Keeps.iff.mp h_keeps run (.refl h.settled))

/-- The handles that a lookup gives come to the others. -/
theorem of_leads {action : Action Browser (List Handle)} (h : InPlace stage hands run)
    (h_leads : Leads stage page run action fun handles run => PlacedAll stage run handles) :
    InPlace stage (gained (action ⟨Browser.driver, page⟩ run) ++ hands)
      (action ⟨Browser.driver, page⟩ run).2 := by
  have h_end := h_leads run (.refl h.settled)
  rcases h_run : action ⟨Browser.driver, page⟩ run with ⟨e | handles, run'⟩
  · rw [h_run] at h_end
    exact h.follow h_end
  · rw [h_run] at h_end
    obtain ⟨h_follows, h_all⟩ := h_end
    refine ⟨h_follows.settled, fun handle name h_mem => ?_⟩
    rcases List.mem_append.mp h_mem with h_new | h_old
    · obtain ⟨found, h_found, h_pair⟩ := List.mem_map.mp h_new
      obtain ⟨rfl, rfl⟩ := Prod.mk.inj h_pair
      exact ⟨h_all found h_found, rfl⟩
    · exact (h.follow h_follows).placed handle name h_old

end InPlace

/-- A change from outside that touches no node. -/
theorem Browser.Shows.apply {browser : Browser} (h : stage.Shows browser) {change : Change}
    (h_change : change.isApart = true) : stage.Shows (browser.apply change) := by
  cases change with
  | rerender | setUrl | openWindow | scriptResult | addCookie | pushLog =>
    exact ⟨h.nodes, h.document⟩
  | _ => cases h_change

theorem Looking.inPlace (h_calm : stage.Calm) (h : Looking stage page hands run) :
    InPlace stage hands run := by
  induction h with
  | start =>
    exact ⟨⟨⟨rfl, rfl⟩, rfl, fun _ _ h_find => nomatch h_find⟩, fun _ _ h_mem => nomatch h_mem⟩
  | change change _ h_change ih =>
    exact ih.follow (.of_world ih.settled (ih.settled.shows.apply h_change))
  | visit pattern params _ ih => exact ih.of_keeps ((Follows.lasting h_calm).visit pattern params)
  | redirect url _ ih => exact ih.of_keeps ((Follows.lasting h_calm).redirect url)
  | lookup lookup _ h_outer ih =>
    exact ih.of_leads (lookup.leads h_calm fun outer h_mem =>
      ih.placed_of_mem (h_outer outer h_mem))
  | @read _ run handle call _ h_mem h_call ih =>
    have h_query : call.isQuery = true := by
      cases call with
      | find | findAll => rfl
      | _ => exact h_call
    obtain ⟨run', h_run, h_follows, -⟩ :=
      Handle.request_settled call.operation call h_calm ih.settled (ih.placed_of_mem h_mem) h_query
    rw [Handle.perform, h_run]
    exact ih.follow h_follows

/-- A placed handle reads as the node that its reference names. -/
theorem Placed.readsAs {handle : Handle} (h_calm : stage.Calm) (h : Settled stage run)
    (h_placed : Placed stage run handle.own handle.ancestors) :
    ReadsAs page run handle (stage.node (run.nodeAt handle.own.id)) := by
  have h_attribute : ∀ name, Gives stage page run (handle.attributeValue name)
      (.ok ((stage.node (run.nodeAt handle.own.id)).attributes.find? name)) := fun name =>
    Handle.request_settled _ (.attribute name) h_calm h h_placed rfl
  have h_markup : ∀ name, Gives stage page run
      (do return (← handle.attributeValue name).getD "" : Action Browser String)
      (.ok (((stage.node (run.nodeAt handle.own.id)).attributes.find? name).getD "")) := fun name =>
    (h_attribute name).bind_ok fun run' h_follows _ => .pure h_follows.settled _
  exact {
    tagName := Gives.result_eq (Handle.request_settled _ .tagName h_calm h h_placed rfl)
    text := Gives.result_eq (Handle.request_settled _ .text h_calm h h_placed rfl)
    attributeValue := fun name => (h_attribute name).result_eq
    value := (h_attribute "value").result_eq
    innerHtml := (h_markup "innerHTML").result_eq
    outerHtml := (h_markup "outerHTML").result_eq
    isDisplayed :=
      Gives.result_eq (Handle.request_settled _ .isDisplayed h_calm h h_placed rfl)
    isEnabled := Gives.result_eq (Handle.request_settled _ .isEnabled h_calm h h_placed rfl)
    isSelected :=
      Gives.result_eq (Handle.request_settled _ .isSelected h_calm h h_placed rfl) }

/-- Every handle that a test has got reads as the node that it named when the test got it. -/
theorem looking_reads {handle : Handle} {name : String} (h_calm : stage.Calm)
    (h_looking : Looking stage page hands run) (h_mem : (handle, name) ∈ hands) :
    ReadsAs page run handle (stage.node name) := by
  obtain ⟨h_settled, h_all⟩ := h_looking.inPlace h_calm
  obtain ⟨h_placed, rfl⟩ := h_all handle name h_mem
  exact h_placed.readsAs h_calm h_settled

/-- A page with two rows, each with a name inside. -/
def Browser.twoRows : Browser where
  nodes := [
    ("row-1", { children := [(".name", ["name-1"])] }),
    ("row-2", { children := [(".name", ["name-2"])] }),
    ("name-1", { text := "first" }),
    ("name-2", { text := "second" })]
  document := [(".row", ["row-1", "row-2"])]

/-- A page without slots. -/
def Page.bare : Page where
  name := "Rows"
  settings := {}
  config := {
    app := "shop", baseUrl := "http://shop.local/", pageUrl := "http://shop.local/rows"
    validUrls := ["http://shop.local/rows"], hasPageReadyScript := false
    pageLoaderClass := "", tableLoaderClass := "", modalVisibleClass := "" }
  elements := []
  tables := []
  groups := []
  nested := []

/-- The name inside the second row, found after one rendering and read after another. -/
theorem looking_reads_second_name : ∃ hands run handle,
    Looking Browser.twoRows Page.bare hands run ∧ (handle, "name-2") ∈ hands
      ∧ handle.own.position = some 0 ∧ handle.ancestors.map Link.position = [some 1]
      ∧ (run.referenceAt handle.own.id).rendering ≠ run.world.rendering
      ∧ ReadsAs Page.bare run handle { text := "second" } := by
  let row : Handle := ⟨⟨1, .css ".row", none, false, some 1⟩, []⟩
  let name : Handle := ⟨⟨2, .css ".name", none, false, some 0⟩, row.chain⟩
  have h_start : Looking Browser.twoRows Page.bare [] { world := Browser.twoRows } := .start
  have h_rows := Looking.change .rerender
    (.lookup (.findAll (.css ".row")) h_start fun _ h_outer => nomatch h_outer) rfl
  have h_name := Looking.change .rerender
    (.lookup (.allInside row (.css ".name")) h_rows fun outer h_outer => by
      obtain rfl := Option.some.inj h_outer
      decide +kernel) rfl
  have h_calm : Browser.twoRows.Calm := Browser.calm_of_forall (by
    simp [Browser.twoRows])
  refine ⟨_, _, name, h_name, ?h_mem, rfl, rfl, ?h_stale, looking_reads h_calm h_name ?h_mem⟩
  case h_mem => decide +kernel
  case h_stale => decide +kernel

end PageObjects
