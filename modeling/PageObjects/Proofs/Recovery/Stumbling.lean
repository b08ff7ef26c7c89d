/-
  PageObjects.Proofs.Recovery.Stumbling

  Drivers that falter.

    * `Browser.driver_falters`: the browser in memory, where references are of another
      rendering.
    * `Browser.driver_falters_once`: the browser in memory, where the next call to any node
      was laid to be stale.
    * `Faltering.driver_falters`: a browser of which the calls find references stale as a
      plan says.
-/

import PageObjects.Proofs.Recovery.Faltering

namespace PageObjects

-- ============================================================================
-- The browser in memory
-- ============================================================================

namespace Browser

variable {browser : Browser}

/-- Any call leaves alone what queries find and how nodes meet calls. -/
theorem SameFrame.answer (h : browser.Quiet) (call : Call) :
    browser.SameFrame (browser.answer call).2 := by
  cases call with
  | provider call => exact .of_shows (.answer ⟨rfl, rfl⟩ h.calm rfl)
  | session call => exact .of_shows (.answer ⟨rfl, rfl⟩ h.calm rfl)
  | element reference call => exact .elementAnswer h reference call

theorem elementAnswer_of_error {reference : Reference} {call : ElementCall}
    (h_call : call ≠ .isStale) {fault : Fault} {reached : Browser}
    (h_reach : browser.reach reference = (.error fault, reached)) :
    browser.elementAnswer reference call = (.error fault, reached) := by
  cases call with
  | isStale => exact absurd rfl h_call
  | _ => simp only [elementAnswer, h_reach]

theorem elementAnswer_of_ok {reference : Reference} {call : ElementCall}
    (h_call : call ≠ .isStale) {node : Node} {reached : Browser}
    (h_reach : browser.reach reference = (.ok node, reached)) :
    browser.elementAnswer reference call = reached.nodeAnswer reference.node node call := by
  cases call with
  | isStale => exact absurd rfl h_call
  | _ => simp only [elementAnswer, h_reach]

/-- A good reference is answered by its node. -/
theorem Calm.elementAnswer_of_live (h : browser.Calm) {reference : Reference}
    (h_live : reference.rendering = browser.rendering) {call : ElementCall}
    (h_call : call ≠ .isStale) :
    browser.elementAnswer reference call
      = browser.nodeAnswer reference.node (browser.node reference.node) call := by
  have h_reach := h.reach_eq reference
  rw [if_pos h_live] at h_reach
  exact elementAnswer_of_ok h_call h_reach

theorem Calm.elementAnswer_of_stale (h : browser.Calm) {reference : Reference}
    (h_stale : reference.rendering ≠ browser.rendering) {call : ElementCall}
    (h_call : call ≠ .isStale) :
    browser.elementAnswer reference call = (.error .stale, browser) := by
  have h_reach := h.reach_eq reference
  rw [if_neg h_stale] at h_reach
  exact elementAnswer_of_error h_call h_reach

theorem rendering_of_mem {names : List String} {reference : Reference}
    (h_mem : reference ∈ browser.references names) : reference.rendering = browser.rendering := by
  obtain ⟨name, -, rfl⟩ := List.mem_map.mp h_mem
  rfl

section found

variable {locator : Locator} {references : List Reference} {memory : Memory} {found : Reference}

theorem mem_of_found_in_document (h : found ∈
    (Exchange.mk (.session (.find locator)) (first locator references) memory).found) :
    found ∈ references := by
  cases references with
  | nil => cases h
  | cons reference rest =>
    obtain rfl := List.mem_singleton.mp h
    exact List.mem_cons_self

theorem mem_of_found_inside {outer : Reference} (h : found ∈
    (Exchange.mk (.element outer (.find locator)) (first locator references) memory).found) :
    found ∈ references := by
  cases references with
  | nil => cases h
  | cons reference rest =>
    obtain rfl := List.mem_singleton.mp h
    exact List.mem_cons_self

/-- What a query finds is of the present rendering. -/
theorem rendering_of_found {query : Call} (h_find : query.isFind = true)
    (h_found : found ∈ (Exchange.mk query (browser.answer query).1 memory).found) :
    found.rendering = (browser.answer query).2.rendering := by
  cases query with
  | provider call => cases h_find
  | session call =>
    cases call with
    | find locator => exact rendering_of_mem (mem_of_found_in_document h_found)
    | findAll locator => exact rendering_of_mem h_found
    | _ => cases h_find
  | element outer call =>
    cases call with
    | find locator =>
      simp only [answer, elementAnswer] at h_found ⊢
      rcases h_reach : browser.reach outer with ⟨fault | node, reached⟩ <;> rw [h_reach] at h_found
      · cases h_found
      · exact rendering_of_mem (mem_of_found_inside h_found)
    | findAll locator =>
      simp only [answer, elementAnswer] at h_found ⊢
      rcases h_reach : browser.reach outer with ⟨fault | node, reached⟩ <;> rw [h_reach] at h_found
      · cases h_found
      · exact rendering_of_mem h_found
    | _ => cases h_find

end found

/-- The browser in memory falters where references are of another rendering. -/
theorem driver_falters {keep : Browser → Prop} (h_quiet : ∀ browser, keep browser → browser.Quiet)
    (h_frame : ∀ browser browser', browser.SameFrame browser' → keep browser → keep browser') :
    Browser.driver.Falters id keep := by
  have h_keeps : ∀ call browser, keep browser → keep (Browser.driver.answer call browser).2 :=
    fun call browser h_keep => h_frame _ _ (.answer (h_quiet browser h_keep) call) h_keep
  refine ⟨h_quiet, h_keeps, fun _ _ _ => rfl, fun reference call browser h_keep h_call => ?_⟩
  have h_calm := (h_quiet browser h_keep).calm
  by_cases h_live : reference.rendering = browser.rendering
  · exact .inl (h_calm.elementAnswer_of_live h_live h_call)
  · refine .inr ⟨h_calm.elementAnswer_of_stale h_live h_call, ?_⟩
    intro between query memory found h_seeks h_find h_found h_node
    have h_between := h_seeks.kept h_keeps (h_keeps _ _ h_keep)
    have h_after := h_keeps query between h_between
    exact (h_quiet _ h_after).calm.elementAnswer_of_live
      (rendering_of_found h_find h_found) h_call

end Browser

-- ============================================================================
-- Nodes that are stale once
-- ============================================================================

namespace Browser

/-- No call to an element meets a fault that was laid for it, except that the next call to any node
    may find it stale; and clicks bring about tame changes only. -/
structure Unsteady (browser : Browser) : Prop where
  failure : ∀ name, (browser.node name).failure = none
  staleCalls : ∀ name, (browser.node name).staleCalls ≤ 1
  clicks : ∀ name, ∀ change ∈ (browser.node name).onClick, change.isTame = true

theorem unsteady_of_forall {browser : Browser} (h : ∀ entry ∈ browser.nodes,
    entry.2.failure = none ∧ entry.2.staleCalls ≤ 1
      ∧ ∀ change ∈ entry.2.onClick, change.isTame = true) : browser.Unsteady := by
  have h_node : ∀ name, (browser.node name).failure = none ∧ (browser.node name).staleCalls ≤ 1
      ∧ ∀ change ∈ (browser.node name).onClick, change.isTame = true := by
    intro name
    rcases browser.node_eq_or_mem name with h_empty | ⟨entry, h_mem, h_entry⟩
    · rw [h_empty]
      exact ⟨rfl, Nat.zero_le 1, fun change h_change => by cases h_change⟩
    · exact h_entry ▸ h entry h_mem
  exact ⟨fun name => (h_node name).1, fun name => (h_node name).2.1, fun name => (h_node name).2.2⟩

/-- The node without the staleness that was laid for it. -/
def Node.steady (node : Node) : Node :=
  { node with staleCalls := 0 }

/-- The browser without the staleness that was laid for its nodes. -/
def steady (browser : Browser) : Browser :=
  { browser with nodes := browser.nodes.map fun entry => (entry.1, entry.2.steady) }

variable {browser : Browser}

theorem node_steady (browser : Browser) (name : String) :
    browser.steady.node name = (browser.node name).steady := by
  rw [node, node, steady]
  generalize browser.nodes = nodes
  induction nodes with
  | nil => rfl
  | cons entry rest ih =>
    rw [List.map_cons, Keyed.find?, Keyed.find?]
    split
    · rfl
    · exact ih

theorem Unsteady.quiet (h : browser.Unsteady) : browser.steady.Quiet := by
  refine ⟨fun name => ?_, fun name => ?_⟩
  · rw [node_steady]
    exact ⟨h.failure name, rfl⟩
  · rw [node_steady]
    exact h.clicks name

theorem map_put_steady (name : String) (node : Node) (nodes : Keyed String Node) :
    (nodes.put name node).map (fun entry => (entry.1, entry.2.steady))
      = Keyed.put name node.steady (nodes.map fun entry => (entry.1, entry.2.steady)) := by
  induction nodes with
  | nil => rfl
  | cons entry rest ih =>
    rw [List.map_cons, Keyed.put, Keyed.put]
    split
    · rfl
    · rw [List.map_cons, ih]

theorem steady_adjustNode {f : Node → Node} (h_f : ∀ node, (f node).steady = f node.steady)
    (name : String) (browser : Browser) :
    (browser.adjustNode name f).steady = browser.steady.adjustNode name f := by
  have h_node : (browser.steady.nodes.find? name).getD {} = (browser.node name).steady :=
    node_steady browser name
  rw [adjustNode, adjustNode, Keyed.adjust, Keyed.adjust, h_node, ← h_f]
  rw [steady]
  dsimp only
  rw [map_put_steady]
  rfl

theorem steady_apply {change : Change} (h_tame : change.isTame = true) (browser : Browser) :
    (browser.apply change).steady = browser.steady.apply change := by
  cases change with
  | rerender | setUrl | openWindow | scriptResult | addCookie | pushLog => rfl
  | setText | setAttribute | setDisplayed | setEnabled | setSelected =>
    apply steady_adjustNode
    exact fun _ => rfl
  | _ => cases h_tame

theorem steady_applyAll {changes : List Change} (h_tame : ∀ change ∈ changes, change.isTame = true)
    (browser : Browser) : (browser.applyAll changes).steady = browser.steady.applyAll changes := by
  induction changes generalizing browser with
  | nil => rfl
  | cons change rest ih =>
    obtain ⟨h_change, h_rest⟩ := List.forall_mem_cons.mp h_tame
    have h_first := steady_apply h_change browser
    exact (ih h_rest (browser.apply change)).trans (congrArg (applyAll · rest) h_first)

/-- Seen without the staleness that was laid for its nodes, a node answers as it does. -/
theorem steady_nodeAnswer (h : browser.Unsteady) (name : String) (call : ElementCall) :
    (browser.nodeAnswer name (browser.node name) call).map id steady
      = browser.steady.nodeAnswer name (browser.steady.node name) call := by
  rw [node_steady]
  cases call with
  | sendKeys | clear =>
    refine Prod.ext rfl ?_
    apply steady_adjustNode
    exact fun _ => rfl
  | click =>
    have h_counted := steady_adjustNode (f := fun n => { n with clicks := n.clicks + 1 })
      (fun _ => rfl) name browser
    refine Prod.ext rfl ((steady_applyAll (h.clicks name) _).trans ?_)
    rw [h_counted]
    rfl
  | _ => rfl

theorem steady_sessionAnswer (browser : Browser) (call : SessionCall) :
    (browser.sessionAnswer call).map id steady = browser.steady.sessionAnswer call := by
  cases call with
  | switchToWindow handle =>
    rw [sessionAnswer, sessionAnswer]
    have h_windows : browser.steady.windows = browser.windows := rfl
    rw [h_windows]
    split <;> rfl
  | _ => rfl

/-- The node after a call that found it stale. -/
def Node.spent (node : Node) : Node :=
  { node with staleCalls := node.staleCalls - 1 }

/-- Taking away staleness that was laid for a node is not seen. -/
theorem steady_spent {name : String} (h_pos : 0 < (browser.node name).staleCalls) :
    (browser.adjustNode name Node.spent).steady = browser.steady := by
  -- the node has a name of its own, since an empty node is not stale
  have h_put : ∀ nodes : Keyed String Node, 0 < ((nodes.find? name).getD {}).staleCalls →
      Keyed.put name ((nodes.find? name).getD {}).spent.steady
          (nodes.map fun entry => (entry.1, entry.2.steady))
        = nodes.map fun entry => (entry.1, entry.2.steady) := by
    intro nodes h_pos
    induction nodes with
    | nil => cases h_pos
    | cons entry rest ih =>
      rw [Keyed.find?] at h_pos ⊢
      rw [List.map_cons, Keyed.put]
      split at h_pos
      case isTrue h_name =>
        rw [if_pos h_name, if_pos h_name, h_name]
        rfl
      case isFalse h_name => rw [if_neg h_name, if_neg h_name, ih h_pos]
  rw [adjustNode, Keyed.adjust, steady]
  dsimp only
  rw [map_put_steady, h_put browser.nodes h_pos]
  rfl

theorem Unsteady.reach_eq (h : browser.Unsteady) (reference : Reference) :
    browser.reach reference
      = if 0 < (browser.node reference.node).staleCalls
        then (.error .stale, browser.adjustNode reference.node Node.spent)
        else if reference.rendering = browser.rendering
          then (.ok (browser.node reference.node), browser) else (.error .stale, browser) := by
  simp only [reach, h.failure reference.node]
  rfl

/-- A call to an element finds the node stale as it was laid, or the reference, or reaches the
    node. -/
theorem Unsteady.elementAnswer_eq (h : browser.Unsteady) (reference : Reference)
    {call : ElementCall} (h_call : call ≠ .isStale) :
    browser.elementAnswer reference call
      = if 0 < (browser.node reference.node).staleCalls
        then (.error .stale, browser.adjustNode reference.node Node.spent)
        else if reference.rendering = browser.rendering
          then browser.nodeAnswer reference.node (browser.node reference.node) call
          else (.error .stale, browser) := by
  have h_reach := h.reach_eq reference
  split at h_reach
  case isTrue h_pos => rw [if_pos h_pos, elementAnswer_of_error h_call h_reach]
  case isFalse h_zero =>
    split at h_reach
    case isTrue h_live =>
      rw [if_neg h_zero, if_pos h_live, elementAnswer_of_ok h_call h_reach]
    case isFalse h_stale =>
      rw [if_neg h_zero, if_neg h_stale, elementAnswer_of_error h_call h_reach]

/-- No node gets more calls that find it stale, or another fault, or other changes by clicks. -/
structure Tires (stage browser : Browser) : Prop where
  failure : ∀ name, (browser.node name).failure = (stage.node name).failure
  staleCalls : ∀ name, (browser.node name).staleCalls ≤ (stage.node name).staleCalls
  onClick : ∀ name, (browser.node name).onClick = (stage.node name).onClick

theorem SameFrame.tires {stage : Browser} (h : stage.SameFrame browser) : stage.Tires browser := by
  refine ⟨fun name => ?_, fun name => Nat.le_of_eq ?_, fun name => ?_⟩
  · have h_failure := congrArg Node.failure (h.node name)
    exact h_failure
  · have h_stale := congrArg Node.staleCalls (h.node name)
    exact h_stale
  · have h_clicks := congrArg Node.onClick (h.node name)
    exact h_clicks

theorem Tires.of_nodes {stage : Browser} (h : browser.nodes = stage.nodes) :
    stage.Tires browser := by
  have h_node : ∀ name, browser.node name = stage.node name := fun name => by
    rw [node, h, node]
  exact ⟨fun name => by rw [h_node], fun name => Nat.le_of_eq (by rw [h_node]),
    fun name => by rw [h_node]⟩

theorem Tires.spent (name : String) (browser : Browser) :
    browser.Tires (browser.adjustNode name Node.spent) := by
  refine ⟨fun other => ?_, fun other => ?_, fun other => ?_⟩ <;> rw [node_adjustNode] <;> split
  · rfl
  · rfl
  · exact Nat.sub_le _ 1
  · exact Nat.le_refl _
  · rfl
  · rfl

theorem Unsteady.of_tires {stage : Browser} (h : stage.Unsteady) (h_tires : stage.Tires browser) :
    browser.Unsteady where
  failure name := (h_tires.failure name).trans (h.failure name)
  staleCalls name := Nat.le_trans (h_tires.staleCalls name) (h.staleCalls name)
  clicks name change h_mem := h.clicks name change (h_tires.onClick name ▸ h_mem)

theorem Unsteady.tires_nodeAnswer (h : browser.Unsteady) (name : String) (call : ElementCall) :
    browser.Tires (browser.nodeAnswer name (browser.node name) call).2 := by
  apply SameFrame.tires
  cases call with
  | sendKeys | clear =>
    apply SameFrame.adjustNode
    exact fun _ => rfl
  | click =>
    have h_counted : browser.SameFrame
        (browser.adjustNode name fun node => { node with clicks := node.clicks + 1 }) := by
      apply SameFrame.adjustNode
      exact fun _ => rfl
    exact h_counted.trans (.applyAll (h.clicks name) _)
  | _ => exact .refl browser

theorem nodes_sessionAnswer (browser : Browser) (call : SessionCall) :
    (browser.sessionAnswer call).2.nodes = browser.nodes := by
  cases call with
  | switchToWindow handle =>
    rw [sessionAnswer]
    split <;> rfl
  | _ => rfl

/-- No call lays faults for nodes. -/
theorem Unsteady.tires_answer (h : browser.Unsteady) (call : Call) :
    browser.Tires (browser.answer call).2 := by
  cases call with
  | provider call =>
    cases call with
    | quit => exact .of_nodes rfl
    | session fresh => cases fresh <;> exact .of_nodes rfl
  | session call => exact .of_nodes (nodes_sessionAnswer browser call)
  | element reference call =>
    by_cases h_call : call = .isStale
    · subst h_call
      exact .of_nodes rfl
    · show browser.Tires (browser.elementAnswer reference call).2
      rw [h.elementAnswer_eq reference h_call]
      split
      · exact .spent reference.node browser
      · split
        · exact h.tires_nodeAnswer reference.node call
        · exact .of_nodes rfl

/-- The node of a reference is not stale any more. -/
def Tired (name : String) (browser : Browser) : Prop :=
  browser.Unsteady ∧ (browser.node name).staleCalls = 0

theorem Tired.answer {name : String} (h : Tired name browser) (call : Call) :
    Tired name (browser.answer call).2 := by
  have h_tires := h.1.tires_answer call
  refine ⟨h.1.of_tires h_tires, Nat.le_zero.mp ?_⟩
  exact Nat.le_trans (h_tires.staleCalls name) (Nat.le_of_eq h.2)

theorem Unsteady.tired_spent (h : browser.Unsteady) (name : String) :
    Tired name (browser.adjustNode name Node.spent) := by
  refine ⟨h.of_tires (.spent name browser), ?_⟩
  rw [node_adjustNode, if_pos rfl]
  exact Nat.sub_eq_zero_of_le (h.staleCalls name)

/-- Once a node is tired, a reference to it of the present rendering is good. -/
theorem Tired.reaches {reference : Reference} (h : Tired reference.node browser)
    (h_live : reference.rendering = browser.rendering) {call : ElementCall}
    (h_call : call ≠ .isStale) : Browser.driver.Reaches steady reference call browser := by
  have h_zero : ¬ 0 < (browser.node reference.node).staleCalls := by
    rw [h.2]
    exact Nat.lt_irrefl 0
  have h_answer := h.1.elementAnswer_eq reference h_call
  rw [if_neg h_zero, if_pos h_live] at h_answer
  exact (congrArg (Prod.map id steady) h_answer).trans (steady_nodeAnswer h.1 _ call)

/-- The browser in memory falters where the next call to any node was laid to be stale. -/
theorem driver_falters_once : Browser.driver.Falters steady Unsteady := by
  have h_keeps : ∀ call browser, Unsteady browser →
      (Browser.driver.answer call browser).2.Unsteady :=
    fun call browser h => h.of_tires (h.tires_answer call)
  refine ⟨fun _ h => h.quiet, h_keeps, fun call browser _ => steady_sessionAnswer browser call, ?_⟩
  intro reference call browser h h_call
  have h_answer : Browser.driver.answer (.element reference call) browser = _ :=
    h.elementAnswer_eq reference h_call
  have h_again : ∀ stale : Browser, Tired reference.node stale →
      ∀ (between : Browser) (query : Call) (memory : Memory) (found : Reference),
        Browser.driver.Seeks stale between → query.isFind = true →
        found ∈ (Exchange.mk query (Browser.driver.answer query between).1 memory).found →
        found.node = reference.node →
        Browser.driver.Reaches steady found call (Browser.driver.answer query between).2 := by
    intro stale h_tired between query memory found h_seeks h_find h_found h_node
    have h_between : Tired reference.node between :=
      h_seeks.kept (fun call _ h => h.answer call) h_tired
    have h_after : Tired found.node (Browser.driver.answer query between).2 := by
      rw [h_node]
      exact h_between.answer query
    exact h_after.reaches (rendering_of_found h_find h_found) h_call
  by_cases h_pos : 0 < (browser.node reference.node).staleCalls
  · rw [if_pos h_pos] at h_answer
    refine .inr ⟨?_, ?_⟩
    · rw [h_answer]
      exact Prod.ext rfl (steady_spent h_pos)
    · rw [h_answer]
      exact h_again _ (h.tired_spent reference.node)
  · have h_tired : Tired reference.node browser := ⟨h, Nat.eq_zero_of_not_pos h_pos⟩
    by_cases h_live : reference.rendering = browser.rendering
    · exact .inl (h_tired.reaches h_live h_call)
    · rw [if_neg h_pos, if_neg h_live] at h_answer
      refine .inr ⟨?_, ?_⟩
      · rw [h_answer]
        rfl
      · rw [h_answer]
        exact h_again _ h_tired

end Browser

-- ============================================================================
-- A browser that falters as it is told
-- ============================================================================

/-- A browser in memory of which calls to elements find references stale as a plan says. -/
structure Faltering where
  browser : Browser
  /-- How many calls were made. -/
  made : Nat := 0
  /-- The references that the last call has found. They are never stale. -/
  found : List Reference := []

namespace Faltering

/-- The answer of the browser. -/
def obey (call : Call) (faltering : Faltering) : Except Fault call.Answer × Faltering :=
  let (answer, browser) := faltering.browser.answer call
  (answer, ⟨browser, faltering.made + 1, (Exchange.mk call answer {}).found⟩)

/-- The answer to a call: to one that is made through a reference, and is planned to, that the
    reference is stale. -/
def answer (plan : Nat → Bool) :
    (call : Call) → Faltering → Except Fault call.Answer × Faltering
  | .element reference call, faltering =>
    if plan faltering.made && !faltering.found.contains reference
    then (.error .stale, ⟨faltering.browser, faltering.made + 1, []⟩)
    else faltering.obey (.element reference call)
  | call, faltering => faltering.obey call

/-- The driver of a browser that falters at the calls that a plan says, counted from 0. -/
def driver (plan : Nat → Bool) : Driver Faltering where
  answer := answer plan
  clock := ⟨fun faltering => faltering.browser.clock,
    fun ms faltering => { faltering with browser := faltering.browser.pause ms }⟩

variable {plan : Nat → Bool} {faltering : Faltering}

/-- A call to an element is answered with staleness or as the browser answers it. -/
theorem answer_element (reference : Reference) (call : ElementCall) :
    (answer plan (.element reference call) faltering
        = (.error .stale, ⟨faltering.browser, faltering.made + 1, []⟩)
      ∧ reference ∉ faltering.found)
    ∨ answer plan (.element reference call) faltering
      = faltering.obey (.element reference call) := by
  rw [answer]
  split
  case isTrue h_planned =>
    refine .inl ⟨rfl, fun h_mem => ?_⟩
    simp [h_mem] at h_planned
  case isFalse => exact .inr rfl

theorem quiet_answer (h_quiet : faltering.browser.Quiet) (call : Call) :
    (answer plan call faltering).2.browser.Quiet := by
  have h_obey : (faltering.obey call).2.browser.Quiet :=
    (Browser.SameFrame.answer h_quiet call).quiet h_quiet
  cases call with
  | provider call => exact h_obey
  | session call => exact h_obey
  | element reference call =>
    rcases answer_element reference call with ⟨h_stale, -⟩ | h_good
    · rw [h_stale]
      exact h_quiet
    · rw [h_good]
      exact h_obey

/-- Behind a query that has found a reference, this reference reaches its node. -/
theorem reaches_of_found (h_quiet : faltering.browser.Quiet) {query : Call}
    (h_find : query.isFind = true) {memory : Memory} {found : Reference}
    (h_found : found ∈ (Exchange.mk query (answer plan query faltering).1 memory).found)
    {call : ElementCall} (h_call : call ≠ .isStale) :
    (driver plan).Reaches Faltering.browser found call (answer plan query faltering).2 := by
  have h_obeyed : answer plan query faltering = faltering.obey query := by
    cases query with
    | provider call => rfl
    | session call => rfl
    | element outer inner =>
      rcases answer_element outer inner with ⟨h_stale, -⟩ | h_good
      · rw [h_stale] at h_found
        cases inner with
        | find locator => cases h_found
        | findAll locator => cases h_found
        | _ => cases h_find
      · exact h_good
  rw [h_obeyed] at h_found ⊢
  have h_live := Browser.rendering_of_found h_find h_found
  have h_after := (Browser.SameFrame.answer h_quiet query).quiet h_quiet
  have h_answer := h_after.calm.elementAnswer_of_live h_live h_call
  rw [Exchange.found_eq query _ memory {}] at h_found
  have h_mem : found ∈ (faltering.obey query).2.found := h_found
  have h_good : (driver plan).answer (.element found call) (faltering.obey query).2
      = (faltering.obey query).2.obey (.element found call) :=
    (answer_element found call).resolve_left fun h_stale => h_stale.2 h_mem
  rw [Driver.Reaches, h_good]
  exact h_answer

/-- It falters, whatever the plan. -/
theorem driver_falters (plan : Nat → Bool) :
    (driver plan).Falters Faltering.browser fun faltering => faltering.browser.Quiet := by
  have h_keeps : ∀ (call : Call) (faltering : Faltering), faltering.browser.Quiet →
      ((driver plan).answer call faltering).2.browser.Quiet :=
    fun call _ h_quiet => quiet_answer h_quiet call
  refine ⟨fun _ h_quiet => h_quiet, h_keeps, fun _ _ _ => rfl, ?_⟩
  intro reference call faltering h_quiet h_call
  have h_again : ∀ (between : Faltering) (query : Call) (memory : Memory) (found : Reference),
      (driver plan).Seeks ((driver plan).answer (.element reference call) faltering).2 between →
      query.isFind = true →
      found ∈ (Exchange.mk query ((driver plan).answer query between).1 memory).found →
      found.node = reference.node →
      (driver plan).Reaches Faltering.browser found call
        ((driver plan).answer query between).2 := by
    intro between query memory found h_seeks h_find h_found _
    have h_between : (fun f : Faltering => f.browser.Quiet) between :=
      h_seeks.kept h_keeps (h_keeps _ _ h_quiet)
    exact reaches_of_found h_between h_find h_found h_call
  rcases answer_element reference call with ⟨h_stale, -⟩ | h_good
  · exact .inr ⟨congrArg (Prod.map id Faltering.browser) h_stale, h_again⟩
  · have h_same : ((driver plan).answer (.element reference call) faltering).map id
          Faltering.browser
        = faltering.browser.elementAnswer reference call :=
      congrArg (Prod.map id Faltering.browser) h_good
    by_cases h_live : reference.rendering = faltering.browser.rendering
    · exact .inl (h_same.trans (h_quiet.calm.elementAnswer_of_live h_live h_call))
    · exact .inr ⟨h_same.trans (h_quiet.calm.elementAnswer_of_stale h_live h_call), h_again⟩

end Faltering

end PageObjects
