/-
  PageObjects.Proofs.Component.Touching

  What a user's hand changes. On a tidy page a click changes nothing of other nodes than
  the clicked one, except that they may be shown and enabled; so after some clicks, and
  after typing into a box, all other nodes read as they did (`Browser.Alters`), and each
  node was clicked as often as it is named among the clicked ones (`Browser.Clicked`).
-/

import PageObjects.Proofs.Component.Handling
import PageObjects.Proofs.Recovery.Stumbling

namespace PageObjects

open PageObjects.Action

-- ============================================================================
-- Tidy pages
-- ============================================================================

/-- The changes that a click on a node may bring about without touching what is read of other
    nodes: its own text, attributes and selection. Nodes may be shown and enabled, not hidden. -/
def Change.isOwn (name : String) : Change → Bool
  | .setText node _ | .setAttribute node _ _ | .setSelected node _ => node == name
  | .setDisplayed _ isOn | .setEnabled _ isOn => isOn
  | .rerender | .setUrl _ | .scriptResult _ _ | .addCookie _ _ | .pushLog _ _ => true
  | _ => false

theorem Change.isTame_of_isOwn {name : String} {change : Change} (h : change.isOwn name = true) :
    change.isTame = true := by
  cases change with
  | add | remove | addChild | removeChildren | openWindow | failStale | failWith | onClick =>
    cases h
  | _ => rfl

namespace Browser

/-- No call meets a fault, and a click touches nothing of other nodes. -/
structure Tidy (browser : Browser) : Prop where
  calm : browser.Calm
  clicks : ∀ name, ∀ change ∈ (browser.node name).onClick, change.isOwn name = true

variable {stage browser browser' : Browser} {name : String} {nodes nodes' : List String}

theorem Tidy.quiet (h : browser.Tidy) : browser.Quiet :=
  ⟨h.calm, fun name change h_mem => Change.isTame_of_isOwn (h.clicks name change h_mem)⟩

theorem Tidy.of_forall (h : ∀ entry ∈ browser.nodes, entry.2.failure = none
    ∧ entry.2.staleCalls = 0 ∧ ∀ change ∈ entry.2.onClick, change.isOwn entry.1 = true) :
    browser.Tidy := by
  refine ⟨calm_of_forall fun entry h_mem => ⟨(h entry h_mem).1, (h entry h_mem).2.1⟩,
    fun name change h_change => ?_⟩
  rw [node] at h_change
  cases h_find : browser.nodes.find? name with
  | none =>
    rw [h_find] at h_change
    cases h_change
  | some found =>
    rw [h_find] at h_change
    exact (h _ (Keyed.mem_of_find? h_find)).2.2 change h_change

theorem Tidy.of_sameFrame (h : stage.Tidy) (h_frame : stage.SameFrame browser) : browser.Tidy := by
  refine ⟨(h_frame.quiet h.quiet).calm, fun name change h_mem => ?_⟩
  have h_clicks := congrArg Node.onClick (h_frame.node name)
  exact h.clicks name change (h_clicks ▸ h_mem)

theorem driver_falters_tidy : Browser.driver.Falters id Tidy :=
  driver_falters (fun _ h => h.quiet) fun _ _ h_frame h => h.of_sameFrame h_frame

-- ============================================================================
-- Touched nodes
-- ============================================================================

/-- What is read of two nodes is the same, apart from whether they are displayed or enabled. -/
structure Node.Alike (node other : Node) : Prop where
  text : other.text = node.text
  attributes : other.attributes = node.attributes
  isSelected : other.isSelected = node.isSelected

/-- Some nodes were touched; of the others nothing was changed but that they may be shown. -/
structure Alters (touched : List String) (stage browser : Browser) : Prop where
  frame : stage.SameFrame browser
  windows : browser.windows = stage.windows
  displayed : ∀ name, (stage.node name).isDisplayed = true → (browser.node name).isDisplayed = true
  enabled : ∀ name, (stage.node name).isEnabled = true → (browser.node name).isEnabled = true
  alike : ∀ name ∉ touched, (stage.node name).Alike (browser.node name)

namespace Alters

theorem refl (nodes : List String) (stage : Browser) : Alters nodes stage stage :=
  ⟨.refl stage, rfl, fun _ h => h, fun _ h => h, fun _ _ => ⟨rfl, rfl, rfl⟩⟩

theorem trans (h : Alters nodes stage browser) (h' : Alters nodes' browser browser') :
    Alters (nodes ++ nodes') stage browser' := by
  refine ⟨h.frame.trans h'.frame, h'.windows.trans h.windows,
    fun name h_on => h'.displayed name (h.displayed name h_on),
    fun name h_on => h'.enabled name (h.enabled name h_on), fun name h_not => ?_⟩
  rw [List.mem_append, not_or] at h_not
  have h_first := h.alike name h_not.1
  have h_second := h'.alike name h_not.2
  exact ⟨h_second.text.trans h_first.text, h_second.attributes.trans h_first.attributes,
    h_second.isSelected.trans h_first.isSelected⟩

theorem canClick (h : Alters nodes stage browser) (h_can : stage.CanClick name) :
    browser.CanClick name :=
  ⟨h.displayed name h_can.1, h.enabled name h_can.2⟩

/-- A change of one node that may only show it otherwise than it touches it. -/
theorem adjustNode {f : Node → Node} (h_frame : ∀ node, (f node).frame = node.frame)
    (h_displayed : ∀ node, node.isDisplayed = true → (f node).isDisplayed = true)
    (h_enabled : ∀ node, node.isEnabled = true → (f node).isEnabled = true)
    (h_alike : name ∈ nodes ∨ ∀ node : Node, node.Alike (f node)) (browser : Browser) :
    Alters nodes browser (browser.adjustNode name f) := by
  refine ⟨.adjustNode h_frame name browser, rfl, fun other h_on => ?_, fun other h_on => ?_,
    fun other h_not => ?_⟩ <;> rw [node_adjustNode] <;> split
  · exact h_displayed _ h_on
  · exact h_on
  · exact h_enabled _ h_on
  · exact h_on
  · rename_i h_name
    rcases h_alike with h_touched | h_alike
    · exact absurd (h_name ▸ h_touched) h_not
    · exact h_alike _
  · exact ⟨rfl, rfl, rfl⟩

/-- A change of what is read of one node touches that node alone. -/
theorem touch {f : Node → Node} (h_frame : ∀ node, (f node).frame = node.frame)
    (h_displayed : ∀ node, (f node).isDisplayed = node.isDisplayed)
    (h_enabled : ∀ node, (f node).isEnabled = node.isEnabled) (name : String) (browser : Browser) :
    Alters [name] browser (browser.adjustNode name f) :=
  adjustNode h_frame (fun node h_on => (h_displayed node).trans h_on)
    (fun node h_on => (h_enabled node).trans h_on) (.inl (List.mem_singleton.mpr rfl)) browser

/-- A change that a click on a node may bring about touches no other node. -/
theorem apply {change : Change} (h_own : change.isOwn name = true) (browser : Browser) :
    Alters [name] browser (browser.apply change) := by
  cases change with
  | rerender | setUrl | scriptResult | addCookie | pushLog =>
    exact ⟨⟨rfl, fun _ => rfl⟩, rfl, fun _ h => h, fun _ h => h, fun _ _ => ⟨rfl, rfl, rfl⟩⟩
  | setText node | setAttribute node | setSelected node =>
    obtain rfl : node = name := eq_of_beq h_own
    refine touch ?_ ?_ ?_ node browser <;> exact fun _ => rfl
  | setDisplayed node isOn =>
    have h_on : isOn = true := h_own
    apply adjustNode
    · exact fun _ => rfl
    · exact fun _ _ => h_on
    · exact fun _ h => h
    · exact .inr fun _ => ⟨rfl, rfl, rfl⟩
  | setEnabled node isOn =>
    have h_on : isOn = true := h_own
    apply adjustNode
    · exact fun _ => rfl
    · exact fun _ h => h
    · exact fun _ _ => h_on
    · exact .inr fun _ => ⟨rfl, rfl, rfl⟩
  | _ => cases h_own

theorem of_looked (h : stage.Looked browser) : Alters [] stage browser := by
  obtain ⟨queries, rfl⟩ := h
  exact ⟨⟨rfl, fun _ => rfl⟩, rfl, fun _ h => h, fun _ h => h, fun _ _ => ⟨rfl, rfl, rfl⟩⟩

theorem of_subset (h : Alters nodes stage browser) (h_sub : nodes ⊆ nodes') :
    Alters nodes' stage browser :=
  ⟨h.frame, h.windows, h.displayed, h.enabled, fun name h_not =>
    h.alike name fun h_mem => h_not (h_sub h_mem)⟩

theorem applyAll {changes : List Change}
    (h_own : ∀ change ∈ changes, change.isOwn name = true) (browser : Browser) :
    Alters [name] browser (browser.applyAll changes) := by
  induction changes generalizing browser with
  | nil => exact refl [name] browser
  | cons change rest ih =>
    obtain ⟨h_change, h_rest⟩ := List.forall_mem_cons.mp h_own
    exact ((apply h_change browser).trans (ih h_rest (browser.apply change))).of_subset (by simp)

/-- Typing into a node touches that node alone. -/
theorem of_typed {keys : String} (h : Acted name (.sendKeys keys) stage browser) :
    Alters [name] stage browser := by
  obtain ⟨seen, h_looked, rfl⟩ := h
  have h_typed : Alters [name] seen
      (seen.nodeAnswer name (seen.node name) (.sendKeys keys)).2 := by
    refine touch ?_ ?_ ?_ name seen <;> exact fun _ => rfl
  exact (of_looked h_looked).trans h_typed

end Alters

-- ============================================================================
-- Clicked nodes
-- ============================================================================

/-- Some nodes were clicked, and nothing else was touched. -/
structure Clicked (nodes : List String) (stage browser : Browser) : Prop where
  alters : Alters nodes stage browser
  clicks : ∀ name, (browser.node name).clicks = (stage.node name).clicks + nodes.count name

namespace Clicked

theorem of_looked (h : stage.Looked browser) : Clicked [] stage browser := by
  refine ⟨.of_looked h, fun name => ?_⟩
  rw [h.node_eq]
  rfl

theorem trans (h : Clicked nodes stage browser) (h' : Clicked nodes' browser browser') :
    Clicked (nodes ++ nodes') stage browser' := by
  refine ⟨h.alters.trans h'.alters, fun name => ?_⟩
  rw [h'.clicks, h.clicks, List.count_append, Nat.add_assoc]

/-- A call to click clicks its node. -/
theorem of_acted (h_tidy : stage.Tidy) (h : Acted name .click stage browser) :
    Clicked [name] stage browser := by
  refine ⟨?_, fun other => ?_⟩
  · obtain ⟨seen, h_looked, rfl⟩ := h
    have h_seen := of_looked h_looked
    have h_own := (h_tidy.of_sameFrame h_seen.alters.frame).clicks name
    have h_counted : Alters [name] seen
        (seen.adjustNode name fun node => { node with clicks := node.clicks + 1 }) := by
      refine .touch ?_ ?_ ?_ name seen <;> exact fun _ => rfl
    exact (h_seen.alters.trans (h_counted.trans (.applyAll h_own _))).of_subset (by simp)
  · rw [h.clicks_eq, List.count_singleton]
    by_cases h_name : other = name <;> simp [h_name, Ne.symm]

end Clicked

end Browser

/-- Behind some clicks the browser may be looked at. -/
theorem Run.Moves.then_look {W : Type} {view : W → Browser} {keep : W → Prop} {nodes : List String}
    {start between run : Run W} (h : start.Moves view keep (Browser.Clicked nodes) between)
    (h' : between.Moves view keep Browser.Looked run) :
    start.Moves view keep (Browser.Clicked nodes) run :=
  h.trans h' fun h_clicked h_looked => by
    simpa using h_clicked.trans (Browser.Clicked.of_looked h_looked)

end PageObjects
