/-
  PageObjects.Proofs.Recovery.Abiding

  Recovery on a page whose nodes change what is read of them, and not what is found
  among them. A test may type and click, texts and attributes may change, and the page
  may be rendered anew: every query goes on to lead to the same nodes, so that a placed
  handle stays in its place.

    * `Browser.SameFrame` is what such a change keeps of the browser.
    * `Run.Abides` is what every step keeps of a run; `Run.Abides.exchange`: any call.
    * `Handle.perform_abides`: calls that act on an element, with all their recovery.
    * `Run.abides_lasting`: all the steps that have no handle.
-/

import PageObjects.Proofs.Recovery.Lookup

namespace PageObjects

open PageObjects.Action

-- ============================================================================
-- Browsers
-- ============================================================================

/-- The changes that leave alone what queries find and how nodes meet calls. -/
def Change.isTame : Change → Bool
  | .add _ _ | .remove _ | .addChild _ _ _ | .removeChildren _ _ | .failStale _ _ | .failWith _ _
  | .onClick _ _ => false
  | _ => true

namespace Browser

/-- No call to an element meets a fault that was laid for it, and clicks bring about tame changes
    only. -/
structure Quiet (browser : Browser) : Prop where
  calm : browser.Calm
  clicks : ∀ name, ∀ change ∈ (browser.node name).onClick, change.isTame = true

/-- A node without what is read of it. -/
def Node.frame (node : Node) : Node where
  children := node.children
  staleCalls := node.staleCalls
  failure := node.failure
  onClick := node.onClick

/-- Two browsers whose documents and nodes differ in nothing but what is read of the nodes. -/
structure SameFrame (stage browser : Browser) : Prop where
  document : browser.document = stage.document
  node : ∀ name, (browser.node name).frame = (stage.node name).frame

variable {stage browser browser' : Browser}

theorem node_adjustNode (name other : String) (f : Node → Node) (browser : Browser) :
    (browser.adjustNode name f).node other
      = if name = other then f (browser.node other) else browser.node other := by
  rw [node, adjustNode, Keyed.adjust]
  split
  · subst_vars
    rw [Keyed.find?_put_self]
    rfl
  · rename_i h_ne
    rw [Keyed.find?_put_of_ne h_ne]
    rfl

namespace SameFrame

theorem refl (browser : Browser) : browser.SameFrame browser :=
  ⟨rfl, fun _ => rfl⟩

theorem trans (h : stage.SameFrame browser) (h' : browser.SameFrame browser') :
    stage.SameFrame browser' :=
  ⟨h'.document.trans h.document, fun name => (h'.node name).trans (h.node name)⟩

theorem of_shows (h : stage.Shows browser) : stage.SameFrame browser :=
  ⟨h.document, fun name => by rw [h.node_eq]⟩

theorem quiet (h : stage.SameFrame browser) (h_quiet : stage.Quiet) : browser.Quiet := by
  refine ⟨fun name => ?_, fun name change h_mem => ?_⟩
  · have h_failure := congrArg Node.failure (h.node name)
    have h_stale := congrArg Node.staleCalls (h.node name)
    obtain ⟨h_none, h_zero⟩ := h_quiet.calm name
    exact ⟨h_failure.trans h_none, h_stale.trans h_zero⟩
  · have h_clicks := congrArg Node.onClick (h.node name)
    exact h_quiet.clicks name change (h_clicks ▸ h_mem)

theorem namesIn_eq (h : stage.SameFrame browser) (locator : Locator) :
    browser.namesIn locator = stage.namesIn locator := by
  rw [namesIn, h.document, namesIn]

/-- Every chain of queries leads to the same node. -/
theorem denoted?_eq (h : stage.SameFrame browser) (own : Link) (ancestors : List Link) :
    browser.denoted? own ancestors = stage.denoted? own ancestors := by
  induction ancestors generalizing own with
  | nil => rw [denoted?, denoted?, h.namesIn_eq]
  | cons parent rest ih =>
    have h_names : ∀ name, (browser.node name).namesIn own.locator
        = (stage.node name).namesIn own.locator := by
      intro name
      have h_children := congrArg Node.children (h.node name)
      exact congrArg (fun children : Keyed String (List String) =>
        (children.find? own.locator.value).getD []) h_children
    rw [denoted?, denoted?, ih]
    simp only [h_names]

/-- Changes of one node that only touch what is read of it. -/
theorem adjustNode {f : Node → Node} (h : ∀ node, (f node).frame = node.frame) (name : String)
    (browser : Browser) : browser.SameFrame (browser.adjustNode name f) := by
  refine ⟨rfl, fun other => ?_⟩
  rw [node_adjustNode]
  split
  · exact h _
  · rfl

theorem apply {change : Change} (h : change.isTame = true) (browser : Browser) :
    browser.SameFrame (browser.apply change) := by
  cases change with
  | rerender | setUrl | openWindow | scriptResult | addCookie | pushLog => exact ⟨rfl, fun _ => rfl⟩
  | setText | setAttribute | setDisplayed | setEnabled | setSelected =>
    apply adjustNode
    exact fun _ => rfl
  | _ => cases h

theorem applyAll {changes : List Change} (h : ∀ change ∈ changes, change.isTame = true)
    (browser : Browser) : browser.SameFrame (browser.applyAll changes) := by
  induction changes generalizing browser with
  | nil => exact refl browser
  | cons change rest ih =>
    obtain ⟨h_change, h_rest⟩ := List.forall_mem_cons.mp h
    exact (apply h_change browser).trans (ih h_rest (browser.apply change))

/-- A node that is typed into, cleared or clicked goes on to find the same nodes. -/
theorem nodeAnswer (h : browser.Quiet) (name : String) (call : ElementCall) :
    browser.SameFrame (browser.nodeAnswer name (browser.node name) call).2 := by
  cases call with
  | sendKeys | clear =>
    apply adjustNode
    exact fun _ => rfl
  | click =>
    have h_counted : browser.SameFrame
        (browser.adjustNode name fun node => { node with clicks := node.clicks + 1 }) := by
      apply adjustNode
      exact fun _ => rfl
    exact h_counted.trans (applyAll (h.clicks name) _)
  | _ => exact refl browser

theorem elementAnswer (h : browser.Quiet) (reference : Reference) (call : ElementCall) :
    browser.SameFrame (browser.elementAnswer reference call).2 := by
  have h_reach := h.calm.reach_eq reference
  by_cases h_live : reference.rendering = browser.rendering
  · rw [if_pos h_live] at h_reach
    have h_node := nodeAnswer h reference.node call
    cases call with
    | isStale => exact refl browser
    | _ => simpa only [Browser.elementAnswer, h_reach] using h_node
  · rw [if_neg h_live] at h_reach
    cases call with
    | isStale => exact refl browser
    | _ => simpa only [Browser.elementAnswer, h_reach] using refl browser

end SameFrame

theorem quiet_of_forall (h : ∀ entry ∈ browser.nodes, entry.2.failure = none
    ∧ entry.2.staleCalls = 0 ∧ ∀ change ∈ entry.2.onClick, change.isTame = true) :
    browser.Quiet := by
  refine ⟨calm_of_forall fun entry h_mem => ⟨(h entry h_mem).1, (h entry h_mem).2.1⟩, ?_⟩
  intro name change h_change
  rcases browser.node_eq_or_mem name with h_empty | ⟨entry, h_mem, h_entry⟩
  · rw [h_empty] at h_change
    cases h_change
  · rw [← h_entry] at h_change
    exact (h entry h_mem).2.2 change h_change

end Browser

-- ============================================================================
-- Handles
-- ============================================================================

variable {stage stage' : Browser} {page : Page} {start run run' : Run Browser} {α β : Type}

theorem Placed.of_sameFrame {own : Link} {ancestors : List Link}
    (h : Placed stage run own ancestors) (h_frame : stage.SameFrame stage') :
    Placed stage' run own ancestors := by
  induction ancestors generalizing own with
  | nil =>
    obtain ⟨h_lt, h_denoted⟩ := h
    exact ⟨h_lt, (h_frame.denoted?_eq own []).trans h_denoted⟩
  | cons parent rest ih =>
    obtain ⟨h_lt, h_denoted, h_parent⟩ := h
    exact ⟨h_lt, (h_frame.denoted?_eq own (parent :: rest)).trans h_denoted, ih h_parent⟩

theorem PlacedAll.of_sameFrame {handles : List Handle} (h : PlacedAll stage run handles)
    (h_frame : stage.SameFrame stage') : PlacedAll stage' run handles :=
  fun handle h_mem => (h handle h_mem).of_sameFrame h_frame

theorem Matched.of_sameFrame {resolved : Resolved} (h : Matched stage run resolved)
    (h_frame : stage.SameFrame stage') : Matched stage' run resolved := by
  refine ⟨h.placed.of_sameFrame h_frame, fun handles h_many handle h_mem => ?_⟩
  rw [h_frame.namesIn_eq]
  exact h.whole handles h_many handle h_mem

/-- What is remembered stays in its place while the browser shows other nodes of the same frame. -/
theorem Settled.of_sameFrame (h : Settled stage run) (h_frame : stage.SameFrame run.world) :
    Settled run.world run :=
  ⟨⟨rfl, rfl⟩, h.present, fun key resolved h_find =>
    (h.remembered key resolved h_find).of_sameFrame h_frame⟩

-- ============================================================================
-- Runs
-- ============================================================================

/-- What a step keeps: the frame of the browser, and the node that each reference names. -/
structure Run.Abides (start run : Run Browser) : Prop where
  frame : start.world.SameFrame run.world
  follows : Follows run.world start run

namespace Run.Abides

theorem settled (h : start.Abides run) : Settled run.world run :=
  h.follows.settled

theorem refl (h : Settled start.world start) : start.Abides start :=
  ⟨.refl _, .refl h⟩

theorem trans (h : start.Abides run) (h' : run.Abides run') : start.Abides run' := by
  refine ⟨h.frame.trans h'.frame, h'.settled, ?_, ?_⟩
  · exact Nat.le_trans h.follows.nextId_le h'.follows.nextId_le
  · intro id h_lt
    rw [h'.follows.nodeAt_eq id (Nat.lt_of_lt_of_le h_lt h.follows.nextId_le),
      h.follows.nodeAt_eq id h_lt]

/-- Nothing that is read of the nodes has changed. -/
theorem of_follows (h : Follows run.world run run') : run.Abides run' := by
  have h_frame : run.world.SameFrame run'.world := .of_shows h.settled.shows
  exact ⟨h_frame, h.settled.of_sameFrame h_frame, h.nextId_le, h.nodeAt_eq⟩

/-- Something that is read of the nodes may have changed. -/
theorem of_world (h : Settled run.world run) {world : Browser} {transcript : List Exchange}
    (h_frame : run.world.SameFrame world) : run.Abides { run with world, transcript } :=
  ⟨h_frame, ⟨⟨rfl, rfl⟩, h.present, fun key resolved h_find =>
    ((h.remembered key resolved h_find).of_sameFrame h_frame).of_nodeAt_eq (Nat.le_refl _)
      fun _ _ => rfl⟩, Nat.le_refl _, fun _ _ => rfl⟩

/-- Any call, be it one that acts on an element. -/
theorem exchange (h : Settled run.world run) (h_quiet : run.world.Quiet) (call : Call) :
    run.Abides (run.exchange Browser.driver call).2 := by
  cases call with
  | provider call => exact .of_follows (.exchange h h_quiet.calm rfl)
  | session call => exact .of_follows (.exchange h h_quiet.calm rfl)
  | element reference call => exact .of_world h (.elementAnswer h_quiet reference call)

theorem quiet (h : start.Abides run) (h_quiet : start.world.Quiet) : run.world.Quiet :=
  h.frame.quiet h_quiet

theorem placed (h : start.Abides run) {own : Link} {ancestors : List Link}
    (h_placed : Placed start.world start own ancestors) : Placed run.world run own ancestors :=
  h.follows.placed (h_placed.of_sameFrame h.frame)

theorem placedAll (h : start.Abides run) {handles : List Handle}
    (h_placed : PlacedAll start.world start handles) : PlacedAll run.world run handles :=
  fun handle h_mem => h.placed (h_placed handle h_mem)

end Run.Abides

/-- The steps that have no handle. -/
theorem Run.abides_lasting (h_quiet : start.world.Quiet) :
    Lasting ⟨Browser.driver, page⟩ start.Abides where
  exchange call _ _ _ h_run := h_run.trans (.exchange h_run.settled (h_run.quiet h_quiet) call)
  pause _ _ h_run := h_run.trans (.of_follows (.of_world h_run.settled ⟨rfl, rfl⟩))
  forget _ h_run := h_run.trans (.of_follows (.forget h_run.settled))
  depart call _ _ _ h_run :=
    h_run.trans (.exchange h_run.settled (h_run.quiet h_quiet) (.session call))

-- ============================================================================
-- Calls that act on an element
-- ============================================================================

namespace Handle

/-- The query of a handle, made again. -/
def requery : (own : Link) → (ancestors : List Link) → Action Browser Reference
  | own, [] =>
    own.refind (Action.sessionCall (.find own.locator) own.context reloading)
      (Action.sessionCall (.findAll own.locator) own.context reloading)
  | own, parent :: rest =>
    own.refind (request parent rest reloading (.find own.locator))
      (request parent rest reloading (.findAll own.locator))

theorem request_eq (own : Link) (ancestors : List Link) (operation : String) (call : ElementCall) :
    request own ancestors operation call
      = recovering ⟨own, ancestors⟩ (requery own ancestors) operation call := by
  cases ancestors with
  | nil => rfl
  | cons parent rest => rfl

/-- The query of a placed handle gives the node that its reference names. -/
theorem requery_settled {own : Link} {ancestors : List Link} (h_calm : stage.Calm)
    (h : Settled stage run) (h_placed : Placed stage run own ancestors) :
    Gives stage page run (requery own ancestors)
      (.ok ⟨run.nodeAt own.id, run.world.rendering⟩) := by
  have h_denoted := h_placed.denoted
  cases ancestors with
  | nil =>
    exact Link.refind_settled (.find h own.locator own.context reloading)
      (.findAll h own.locator own.context reloading) h_denoted
  | cons parent rest =>
    have h_parent : Placed stage run parent rest := h_placed.2.2
    rw [Browser.denoted?, h_parent.denoted] at h_denoted
    exact Link.refind_settled (request_settled reloading (.find own.locator) h_calm h h_parent rfl)
      (request_settled reloading (.findAll own.locator) h_calm h h_parent rfl) h_denoted

/-- Any call through a placed handle, whichever references are stale. -/
theorem perform_abides (h_quiet : start.world.Quiet) {handle : Handle}
    (h_placed : Placed start.world start handle.own handle.ancestors) (call : ElementCall) :
    Keeps ⟨Browser.driver, page⟩ start.Abides (handle.perform call) := by
  rw [perform, request_eq]
  apply recovering_keeps_of
  · exact fun reference => .ask fun run h_run =>
      h_run.trans (.exchange h_run.settled (h_run.quiet h_quiet) _)
  · rw [Keeps.iff]
    intro run h_run
    have h_placed := h_run.placed h_placed
    obtain ⟨run', h_reload, -, h_follows, -⟩ := reload_settled h_run.settled h_placed rfl
      (requery_settled (h_run.quiet h_quiet).calm h_run.settled h_placed)
    rw [h_reload]
    exact h_run.trans (.of_follows h_follows)

end Handle

end PageObjects
