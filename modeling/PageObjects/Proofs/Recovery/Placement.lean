/-
  PageObjects.Proofs.Recovery.Placement

  Recovery on a page whose nodes do not change. The queries of a handle, from the
  document down, lead to one node (`Browser.denoted?`), and that node does not
  depend on when they are made. A handle is placed (`Placed`) if its reference and
  those of the elements around it still name the nodes that their queries lead to,
  be they stale or not.

    * `Follows` is what every step keeps: the nodes, the placed handles in the
      memory, and the node that each reference names.
    * `Follows.exchange`: every call follows that does not type, clear or click.
    * `Follows.placed`: placed handles stay placed.
-/

import PageObjects.Browser.InMemory
import PageObjects.Page.Recovery
import PageObjects.Proofs.Action.Triple

namespace PageObjects

-- ============================================================================
-- Queries
-- ============================================================================

/-- The calls that read an element. -/
def ElementCall.isRead : ElementCall → Bool
  | .tagName | .text | .attribute _ | .isDisplayed | .isEnabled | .isSelected => true
  | _ => false

/-- The calls that ask an element for something and change nothing. -/
def ElementCall.isQuery : ElementCall → Bool
  | .find _ | .findAll _ => true
  | call => call.isRead

/-- The calls that leave every node as it is. -/
def Call.isHarmless : Call → Bool
  | .element _ .click | .element _ (.sendKeys _) | .element _ .clear => false
  | _ => true

/-- The match that a query stands for, the first one unless it has a position. -/
def matchAt (position : Option Nat) (names : List String) : Option String :=
  match position with
  | none => names.head?
  | some position => names[position]?

namespace Browser

/-- No call to an element meets a fault that was laid for it. -/
def Calm (browser : Browser) : Prop :=
  ∀ name, (browser.node name).failure = none ∧ (browser.node name).staleCalls = 0

/-- A node without a name of its own is an empty one. -/
theorem node_eq_or_mem (browser : Browser) (name : String) :
    browser.node name = {} ∨ ∃ entry ∈ browser.nodes, entry.2 = browser.node name := by
  rw [node]
  generalize browser.nodes = nodes
  induction nodes with
  | nil => exact .inl rfl
  | cons entry rest ih =>
    rw [Keyed.find?]
    split
    · exact .inr ⟨entry, List.mem_cons_self, rfl⟩
    · rcases ih with h_empty | ⟨other, h_mem, h_other⟩
      · exact .inl h_empty
      · exact .inr ⟨other, List.mem_cons_of_mem _ h_mem, h_other⟩

theorem calm_of_forall {browser : Browser} (h : ∀ entry ∈ browser.nodes,
    entry.2.failure = none ∧ entry.2.staleCalls = 0) : browser.Calm := by
  intro name
  rcases browser.node_eq_or_mem name with h_empty | ⟨entry, h_mem, h_entry⟩
  · rw [h_empty]
    exact ⟨rfl, rfl⟩
  · rw [← h_entry]
    exact h entry h_mem

/-- On the way to a node nothing changes but nodes. -/
theorem exists_reach_eq (reference : Reference) (browser : Browser) :
    ∃ nodes, (browser.reach reference).2 = { browser with nodes } := by
  rw [reach]
  split
  · exact ⟨_, rfl⟩
  · split
    · exact ⟨_, rfl⟩
    · split <;> exact ⟨_, rfl⟩

/-- A live reference leads to its node, a stale one does not. -/
theorem Calm.reach_eq {browser : Browser} (h : browser.Calm) (reference : Reference) :
    browser.reach reference
      = (if reference.rendering = browser.rendering then .ok (browser.node reference.node)
          else .error .stale, browser) := by
  obtain ⟨h_failure, h_stale⟩ := h reference.node
  simp only [reach, h_failure, h_stale, Nat.lt_irrefl, if_false]
  split <;> rfl

/-- The names of the nodes that the document finds. -/
def namesIn (browser : Browser) (locator : Locator) : List String :=
  (browser.document.find? locator.value).getD []

/-- The names of the nodes that an element finds. -/
def Node.namesIn (node : Node) (locator : Locator) : List String :=
  (node.children.find? locator.value).getD []

/-- The node that a chain of queries leads to. -/
def denoted? (browser : Browser) : (own : Link) → (ancestors : List Link) → Option String
  | own, [] => matchAt own.position (browser.namesIn own.locator)
  | own, parent :: rest =>
    (browser.denoted? parent rest).bind fun outer =>
      matchAt own.position ((browser.node outer).namesIn own.locator)

/-- The names of the nodes that a query finds under a chain of queries. -/
def namesUnder? (browser : Browser) (locator : Locator) : List Link → Option (List String)
  | [] => some (browser.namesIn locator)
  | parent :: rest =>
    (browser.denoted? parent rest).map fun outer => (browser.node outer).namesIn locator

theorem denoted?_eq (browser : Browser) (own : Link) (ancestors : List Link) :
    browser.denoted? own ancestors
      = (browser.namesUnder? own.locator ancestors).bind (matchAt own.position) := by
  cases ancestors with
  | nil => rfl
  | cons parent rest => rw [denoted?, namesUnder?, Option.bind_map]; rfl

/-- The answer of a node in some rendering of the page. -/
def answerIn (stage : Browser) (rendering : Nat) (name : String) (call : ElementCall) :
    Except Fault call.Answer :=
  (({ stage with rendering } : Browser).nodeAnswer name (stage.node name) call).1

/-- The browser shows the nodes of `stage`, perhaps in another rendering. -/
structure Shows (stage browser : Browser) : Prop where
  nodes : browser.nodes = stage.nodes
  document : browser.document = stage.document

variable {stage browser : Browser}

theorem Shows.node_eq (h : stage.Shows browser) (name : String) :
    browser.node name = stage.node name := by
  rw [node, h.nodes, node]

theorem Shows.calm (h : stage.Shows browser) (h_calm : stage.Calm) : browser.Calm := by
  intro name
  rw [h.node_eq]
  exact h_calm name

/-- A query to a node leaves the browser as it is, and its answer depends on the rendering alone. -/
theorem Shows.nodeAnswer_eq (h : stage.Shows browser) (name : String) {call : ElementCall}
    (h_call : call.isQuery = true) :
    browser.nodeAnswer name (browser.node name) call
      = (stage.answerIn browser.rendering name call, browser) := by
  rw [h.node_eq]
  cases call with
  | click => cases h_call
  | sendKeys keys => cases h_call
  | clear => cases h_call
  | isStale => cases h_call
  | _ => rfl

/-- A live reference gives the answer of its node, a stale one the fault of staleness. -/
theorem Shows.elementAnswer_eq (h : stage.Shows browser) (h_calm : stage.Calm)
    (reference : Reference) {call : ElementCall} (h_call : call.isQuery = true) :
    browser.elementAnswer reference call
      = (if reference.rendering = browser.rendering
          then stage.answerIn browser.rendering reference.node call
          else .error .stale, browser) := by
  have h_reach := (h.calm h_calm).reach_eq reference
  by_cases h_live : reference.rendering = browser.rendering
  · rw [if_pos h_live] at h_reach
    rw [if_pos h_live, ← h.nodeAnswer_eq reference.node h_call]
    cases call with
    | isStale => cases h_call
    | _ => simp only [elementAnswer, h_reach]
  · rw [if_neg h_live] at h_reach
    rw [if_neg h_live]
    cases call with
    | isStale => cases h_call
    | _ => simp only [elementAnswer, h_reach]

/-- No harmless call changes a node or what the document finds. -/
theorem Shows.answer (h : stage.Shows browser) (h_calm : stage.Calm) {call : Call}
    (h_call : call.isHarmless = true) : stage.Shows (browser.answer call).2 := by
  have h_same : ∀ other : Browser, other.nodes = browser.nodes →
      other.document = browser.document → stage.Shows other := by
    intro other h_nodes h_document
    exact ⟨h_nodes.trans h.nodes, h_document.trans h.document⟩
  cases call with
  | provider call =>
    cases call with
    | quit => exact h_same _ rfl rfl
    | session fresh =>
      show stage.Shows (if fresh then { browser with cookies := [] } else browser)
      split
      · exact h_same _ rfl rfl
      · exact h
  | session call =>
    cases call with
    | switchToWindow handle =>
      show stage.Shows (if browser.windows.contains handle
        then (.ok (), { browser with currentWindow := handle })
        else (.error (.other ("no such window: " ++ handle)), browser) : Except Fault Unit × _).2
      split
      · exact h_same _ rfl rfl
      · exact h
    | _ => exact h_same _ rfl rfl
  | element reference call =>
    by_cases h_query : call.isQuery = true
    · show stage.Shows (browser.elementAnswer reference call).2
      rw [h.elementAnswer_eq h_calm reference h_query]
      exact h
    · cases call with
      | isStale => exact h
      | click => cases h_call
      | sendKeys keys => cases h_call
      | clear => cases h_call
      | _ => exact absurd rfl h_query

/-- A node never answers a query with staleness. -/
theorem answerIn_ne_stale (rendering : Nat) (name : String) {call : ElementCall}
    (h_call : call.isQuery = true) : stage.answerIn rendering name call ≠ .error .stale := by
  cases call with
  | click => cases h_call
  | sendKeys keys => cases h_call
  | clear => cases h_call
  | isStale => cases h_call
  | find locator =>
    intro h_stale
    simp only [answerIn, nodeAnswer, first] at h_stale
    split at h_stale
    · cases h_stale
    · cases h_stale
  | _ =>
    intro h_stale
    cases h_stale

end Browser

-- ============================================================================
-- Placed handles
-- ============================================================================

/-- The present reference of a handle. -/
def Run.referenceAt {W : Type} (run : Run W) (id : Nat) : Reference :=
  (run.references.find? id).getD default

/-- The node that the reference of a handle names. -/
def Run.nodeAt {W : Type} (run : Run W) (id : Nat) : String :=
  (run.referenceAt id).node

/-- The reference of a handle names the node that its queries lead to, and so do those of the
    elements around it. -/
def Placed (stage : Browser) (run : Run Browser) : (own : Link) → (ancestors : List Link) → Prop
  | own, [] => own.id < run.nextId ∧ stage.denoted? own [] = some (run.nodeAt own.id)
  | own, parent :: rest =>
    own.id < run.nextId ∧ stage.denoted? own (parent :: rest) = some (run.nodeAt own.id)
      ∧ Placed stage run parent rest

/-- The innermost of the elements around a place is placed. -/
def Around (stage : Browser) (run : Run Browser) : List Link → Prop
  | [] => True
  | parent :: rest => Placed stage run parent rest

/-- All of some handles are placed. -/
def PlacedAll (stage : Browser) (run : Run Browser) (handles : List Handle) : Prop :=
  ∀ handle ∈ handles, Placed stage run handle.own handle.ancestors

/-- Resolved handles are placed; a list has one for each match of its query. -/
structure Matched (stage : Browser) (run : Run Browser) (resolved : Resolved) : Prop where
  placed : PlacedAll stage run resolved.toList
  whole : ∀ handles, resolved = .many handles → ∀ handle ∈ handles,
    handles.length = (stage.namesIn handle.own.locator).length

/-- The page shows the nodes of `stage`, and all that it remembers is placed and whole. -/
structure Settled (stage : Browser) (run : Run Browser) : Prop where
  shows : stage.Shows run.world
  present : run.pageDropped = false
  remembered : ∀ key resolved, run.memory.cache.find? key = some (.elements resolved) →
    Matched stage run resolved

/-- What a step keeps: no reference comes to name another node. -/
structure Follows (stage : Browser) (run run' : Run Browser) : Prop where
  settled : Settled stage run'
  nextId_le : run.nextId ≤ run'.nextId
  nodeAt_eq : ∀ id < run.nextId, run'.nodeAt id = run.nodeAt id

variable {stage : Browser} {run run' run'' : Run Browser} {own : Link} {ancestors : List Link}

theorem Around.nil (run : Run Browser) : Around stage run [] := trivial

theorem Placed.id_lt (h : Placed stage run own ancestors) : own.id < run.nextId := by
  cases ancestors with
  | nil => exact h.1
  | cons parent rest => exact h.1

theorem Placed.denoted (h : Placed stage run own ancestors) :
    stage.denoted? own ancestors = some (run.nodeAt own.id) := by
  cases ancestors with
  | nil => exact h.2
  | cons parent rest => exact h.2.1

theorem Placed.intro (h_lt : own.id < run.nextId)
    (h_denoted : stage.denoted? own ancestors = some (run.nodeAt own.id))
    (h_around : Around stage run ancestors) : Placed stage run own ancestors := by
  cases ancestors with
  | nil => exact ⟨h_lt, h_denoted⟩
  | cons parent rest => exact ⟨h_lt, h_denoted, h_around⟩

/-- Placed handles stay placed while the references name the same nodes. -/
theorem Placed.of_nodeAt_eq (h : Placed stage run own ancestors) (h_le : run.nextId ≤ run'.nextId)
    (h_eq : ∀ id < run.nextId, run'.nodeAt id = run.nodeAt id) :
    Placed stage run' own ancestors := by
  induction ancestors generalizing own with
  | nil =>
    obtain ⟨h_lt, h_denoted⟩ := h
    exact ⟨Nat.lt_of_lt_of_le h_lt h_le, by rw [h_eq _ h_lt]; exact h_denoted⟩
  | cons parent rest ih =>
    obtain ⟨h_lt, h_denoted, h_parent⟩ := h
    exact ⟨Nat.lt_of_lt_of_le h_lt h_le, by rw [h_eq _ h_lt]; exact h_denoted, ih h_parent⟩

/-- A single handle that is placed. -/
theorem Matched.one {handle : Handle} (h : Placed stage run handle.own handle.ancestors) :
    Matched stage run (.one handle) := by
  refine ⟨fun other h_mem => ?_, fun _ h_many => nomatch h_many⟩
  obtain rfl := List.mem_singleton.mp h_mem
  exact h

theorem Matched.of_nodeAt_eq {resolved : Resolved} (h : Matched stage run resolved)
    (h_le : run.nextId ≤ run'.nextId)
    (h_eq : ∀ id < run.nextId, run'.nodeAt id = run.nodeAt id) : Matched stage run' resolved :=
  ⟨fun handle h_mem => (h.placed handle h_mem).of_nodeAt_eq h_le h_eq, h.whole⟩

namespace Follows

theorem refl (h : Settled stage run) : Follows stage run run :=
  ⟨h, Nat.le_refl _, fun _ _ => rfl⟩

theorem trans (h : Follows stage run run') (h' : Follows stage run' run'') :
    Follows stage run run'' := by
  refine ⟨h'.settled, Nat.le_trans h.nextId_le h'.nextId_le, fun id h_lt => ?_⟩
  rw [h'.nodeAt_eq id (Nat.lt_of_lt_of_le h_lt h.nextId_le), h.nodeAt_eq id h_lt]

theorem placed (h : Follows stage run run') (h_placed : Placed stage run own ancestors) :
    Placed stage run' own ancestors :=
  h_placed.of_nodeAt_eq h.nextId_le h.nodeAt_eq

theorem around (h : Follows stage run run') (h_around : Around stage run ancestors) :
    Around stage run' ancestors := by
  cases ancestors with
  | nil => trivial
  | cons parent rest => exact h.placed h_around

theorem placedAll (h : Follows stage run run') {handles : List Handle}
    (h_placed : PlacedAll stage run handles) : PlacedAll stage run' handles :=
  fun handle h_mem => h.placed (h_placed handle h_mem)

theorem matched (h : Follows stage run run') {resolved : Resolved}
    (h_matched : Matched stage run resolved) : Matched stage run' resolved :=
  h_matched.of_nodeAt_eq h.nextId_le h.nodeAt_eq

/-- The page may forget handles. -/
theorem of_memory (h : Settled stage run) {memory : Memory}
    (h_memory : ∀ key resolved, memory.cache.find? key = some (.elements resolved) →
      run.memory.cache.find? key = some (.elements resolved)) :
    Follows stage run { run with memory } :=
  ⟨⟨h.shows, h.present, fun key resolved h_find =>
    (h.remembered key resolved (h_memory key resolved h_find)).of_nodeAt_eq (Nat.le_refl _)
      fun _ _ => rfl⟩, Nat.le_refl _, fun _ _ => rfl⟩

theorem drop (h : Settled stage run) (key : String) : Follows stage run
    { run with memory := { run.memory with cache := run.memory.cache.drop key } } := by
  refine .of_memory h fun other found h_find => ?_
  by_cases h_key : key = other
  · subst h_key
    rw [Keyed.find?_drop_self] at h_find
    cases h_find
  · rwa [Keyed.find?_drop_of_ne h_key] at h_find

theorem forget (h : Settled stage run) : Follows stage run { run with memory := {} } :=
  .of_memory h fun _ _ h_find => nomatch h_find

/-- The browser may count, render and move, as long as it shows the nodes of the stage. -/
theorem of_world (h : Settled stage run) {world : Browser} {transcript : List Exchange}
    (h_shows : stage.Shows world) : Follows stage run { run with world, transcript } :=
  ⟨⟨h_shows, h.present, fun key resolved h_find =>
    (h.remembered key resolved h_find).of_nodeAt_eq (Nat.le_refl _) fun _ _ => rfl⟩,
    Nat.le_refl _, fun _ _ => rfl⟩

theorem exchange (h : Settled stage run) (h_calm : stage.Calm) {call : Call}
    (h_call : call.isHarmless = true) : Follows stage run (run.exchange Browser.driver call).2 :=
  .of_world h (h.shows.answer h_calm h_call)

/-- A handle may get another reference to the node that its reference names. -/
theorem of_reference (h : Settled stage run) (own : Link) {reference : Reference}
    (h_node : own.id < run.nextId → reference.node = run.nodeAt own.id) :
    Follows stage run { run with references := run.references.put own.id reference } := by
  have h_nodes : ∀ id < run.nextId,
      Run.nodeAt { run with references := run.references.put own.id reference } id
        = run.nodeAt id := by
    intro id h_lt
    by_cases h_id : own.id = id
    · subst h_id
      rw [Run.nodeAt, Run.referenceAt, Keyed.find?_put_self]
      exact h_node h_lt
    · rw [Run.nodeAt, Run.referenceAt, Keyed.find?_put_of_ne h_id]
      rfl
  exact ⟨⟨h.shows, h.present, fun key resolved h_find =>
    (h.remembered key resolved h_find).of_nodeAt_eq (Nat.le_refl _) h_nodes⟩,
    Nat.le_refl _, h_nodes⟩

/-- A new handle gets the next number, which names no node yet. -/
theorem of_register (h : Settled stage run) (reference : Reference) :
    Follows stage run { run with
      nextId := run.nextId + 1, references := run.references.put run.nextId reference } := by
  have h_nodes : ∀ id < run.nextId,
      Run.nodeAt { run with
        nextId := run.nextId + 1, references := run.references.put run.nextId reference } id
        = run.nodeAt id := by
    intro id h_lt
    rw [Run.nodeAt, Run.referenceAt, Keyed.find?_put_of_ne (Nat.ne_of_gt h_lt)]
    rfl
  have h_le : run.nextId ≤ run.nextId + 1 := Nat.le_succ _
  exact ⟨⟨h.shows, h.present, fun key resolved h_find =>
    (h.remembered key resolved h_find).of_nodeAt_eq h_le h_nodes⟩, h_le, h_nodes⟩

/-- The page may remember handles that are placed and whole. -/
theorem of_remember (h : Settled stage run) (key : String) {resolved : Resolved}
    (h_matched : Matched stage run resolved) :
    Follows stage run
      { run with memory :=
        { run.memory with cache := run.memory.cache.put key (.elements resolved) } } := by
  refine ⟨⟨h.shows, h.present, fun other found h_find => ?_⟩, Nat.le_refl _, fun _ _ => rfl⟩
  have h_old : Matched stage run found := by
    by_cases h_key : key = other
    · subst h_key
      rw [Keyed.find?_put_self] at h_find
      obtain rfl : resolved = found := Cached.elements.inj (Option.some.inj h_find)
      exact h_matched
    · rw [Keyed.find?_put_of_ne h_key] at h_find
      exact h.remembered other found h_find
  exact h_old.of_nodeAt_eq (Nat.le_refl _) fun _ _ => rfl

end Follows

end PageObjects
