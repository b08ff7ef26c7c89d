/-
  PageObjects.Proofs.Memory.Using

  Tests that use the elements of a page. `Using` is every state that such a test comes
  to: it looks elements up, types into them, clicks them and waits for them, opens pages
  and changes tabs. Meanwhile the page is rendered anew any number of times, and what is
  read of its nodes changes; the nodes that queries find stay the same.

    * `HandleOperation.givesPlaced`, `PageOperation.givesPlaced`: one operation.
    * `Using.inUse`: the handles of a test stay in their places, by induction on its steps.
-/

import PageObjects.Proofs.Memory.Session
import PageObjects.Proofs.Recovery.Abiding
import PageObjects.Proofs.Recovery.Finding

namespace PageObjects

open PageObjects.Action

variable {stage : Browser} {page : Page} {start run run' : Run Browser} {α : Type}

-- ============================================================================
-- What operations give
-- ============================================================================

/-- The action keeps every handle in its place, and those that it gives are in theirs. -/
def GivesPlaced (page : Page) (start : Run Browser) (action : Action Browser Held) : Prop :=
  Triple ⟨Browser.driver, page⟩ start.Abides action
    (fun held run => start.Abides run ∧ PlacedAll run.world run held.handles) fun _ => start.Abides

namespace GivesPlaced

theorem nothing {action : Action Browser Held}
    (h : Yields ⟨Browser.driver, page⟩ start.Abides action fun held => held = {}) :
    GivesPlaced page start action := by
  refine Triple.weaken h (fun _ h_run => h_run) ?_ fun _ _ h_run => h_run
  rintro held run ⟨h_run, rfl⟩
  exact ⟨h_run, fun _ h_mem => nomatch h_mem⟩

/-- An action that gives placed handles wherever it starts on the way. -/
theorem of_leads {action : Action Browser α} {give : α → Held}
    (h : ∀ run, start.Abides run → Leads run.world page run action fun a run' =>
      PlacedAll run.world run' (give a).handles) :
    GivesPlaced page start (do return give (← action)) := by
  intro run h_run
  have h_end := h run h_run run (.refl h_run.settled)
  rw [run_bind]
  rcases h_action : action ⟨Browser.driver, page⟩ run with ⟨e | a, run'⟩
  · rw [h_action] at h_end
    exact h_run.trans (.of_follows h_end)
  · rw [h_action] at h_end
    obtain ⟨h_follows, h_placed⟩ := h_end
    exact ⟨h_run.trans (.of_follows h_follows),
      h_placed.of_sameFrame (.of_shows h_follows.settled.shows)⟩

end GivesPlaced

-- ============================================================================
-- One operation
-- ============================================================================

theorem PlacedAll.singleton {handle : Handle} (h : Placed stage run handle.own handle.ancestors) :
    PlacedAll stage run [handle] := by
  intro other h_mem
  obtain rfl := List.mem_singleton.mp h_mem
  exact h

/-- What a test does with a handle. -/
theorem HandleOperation.givesPlaced (h_quiet : start.world.Quiet) {handle : Handle}
    (h_placed : Placed start.world start handle.own handle.ancestors)
    (operation : HandleOperation) : GivesPlaced page start (operation.action handle) := by
  have h_calm : ∀ run, start.Abides run → run.world.Calm :=
    fun _ h_run => (h_run.quiet h_quiet).calm
  cases operation with
  | find locator =>
    exact .of_leads fun run h_run =>
      (Handle.find_leads (h_calm run h_run) (h_run.placed h_placed) locator).weaken
        fun _ _ => PlacedAll.singleton
  | findAll locator =>
    exact .of_leads fun run h_run =>
      Handle.findAll_leads (h_calm run h_run) (h_run.placed h_placed) locator
  | _ =>
    exact .nothing
      ((Run.abides_lasting h_quiet).handleOperation (Handle.perform_abides h_quiet h_placed) rfl)

namespace Page

/-- The first of some handles. -/
theorem element_leads {x : Action Browser Resolved}
    (h : Leads stage page start x fun resolved run => Matched stage run resolved) :
    Leads stage page start (do (← x).head) fun handle run => PlacedAll stage run [handle] :=
  .bind h fun _ _ _ h_matched =>
    (head_leads h_matched.placed).weaken fun _ _ => PlacedAll.singleton

theorem memberBinding_leads (group : ElementGroup) (name : String) :
    Leads stage page start (memberBinding group name) fun _ _ => True := by
  refine .of_keeps (.bind .get fun run => ?_)
  split
  · exact .pure _
  · refine .bind .read fun _ => .bind (.modifyMemory fun run h_follows => ?_) fun _ => .pure _
    exact h_follows.trans (.of_memory h_follows.settled fun _ _ h_find => h_find)

theorem reload_leads (h_calm : stage.Calm) (resolved : Resolved) :
    Leads stage page start (reload resolved) fun found run => Matched stage run found := by
  refine .bind (.lift _) fun first run h_follows _ => ?_
  dsimp only
  split
  · rename_i slot _
    have h_forget : Leads stage page run (forget slot) fun _ _ => True :=
      .of_keeps (.modifyMemory fun run h_follows => h_follows.trans (.drop h_follows.settled slot))
    exact .bind h_forget fun _ _ _ _ => Binding.resolve_leads h_calm _ slot
  · exact Binding.query_leads _ none

end Page

/-! ## Operations on the page -/

/-- A name that belongs to a slot may only be used for the binding of the slot. -/
def Page.Honors (page : Page) : Fits := fun name binding =>
  ∀ declared, page.elements.find? name = some declared → binding = declared

theorem Page.honors_declared {slot : String} {binding : Binding}
    (h : page.elements.find? slot = some binding) : page.Honors slot binding :=
  fun _ h_declared => Option.some.inj (h.symm.trans h_declared)

/-- Whether an operation is about elements, and remembers nothing under the name of a slot but what
    is declared for it. -/
def Operation.HonorsSlots (page : Page) : Operation → Prop
  | onPage (.table _) => False
  | onPage (.nestedTable _ _) => False
  | onTable _ _ => False
  | operation => operation.RespectsNames page.Honors page

/-- What a test does with the page, tables apart. -/
theorem PageOperation.givesPlaced (h_quiet : start.world.Quiet) {operation : PageOperation}
    (h : (Operation.onPage operation).HonorsSlots page) :
    GivesPlaced page start operation.action := by
  have h_calm : ∀ run, start.Abides run → run.world.Calm :=
    fun _ h_run => (h_run.quiet h_quiet).calm
  cases operation with
  | resolve slot =>
    exact .of_leads fun run h_run => (Page.resolve_leads (h_calm run h_run) slot).weaken
      fun _ _ h_matched => h_matched.placed
  | element slot =>
    exact .of_leads fun run h_run => Page.element_leads (Page.resolve_leads (h_calm run h_run) slot)
  | elementList slot =>
    exact .of_leads fun run h_run => .bind (Page.resolve_leads (h_calm run h_run) slot)
      fun _ _ _ h_matched => .pure fun _ h_follows => h_follows.placedAll h_matched.placed
  | resolveBinding binding slot =>
    exact .of_leads fun run h_run => (binding.resolve_leads (h_calm run h_run) slot).weaken
      fun _ _ h_matched => h_matched.placed
  | reload resolved =>
    exact .of_leads fun run h_run => (Page.reload_leads (h_calm run h_run) resolved).weaken
      fun _ _ h_matched => h_matched.placed
  | find locator =>
    exact .of_leads fun _ _ => Page.element_leads (Binding.query_leads _ none)
  | findAll locator =>
    exact .of_leads fun _ _ => .bind (Binding.query_leads _ none) fun _ _ _ h_matched =>
      .pure fun _ h_follows => h_follows.placedAll h_matched.placed
  | findNamed name =>
    exact .of_leads fun _ _ => .bind (.of_keeps .read) fun _ _ _ _ =>
      Page.element_leads (Binding.query_leads _ none)
  | groupBinding slot indices =>
    exact .of_leads fun _ _ => .bind (.of_keeps (Steady.declared _ _ _)) fun group _ _ _ =>
      .bind (.lift _) fun name _ _ _ => (Page.memberBinding_leads group name).weaken
        fun _ _ _ _ h_mem => nomatch h_mem
  | groupMember slot indices =>
    exact .of_leads fun run h_run => .bind (.of_keeps (Steady.declared _ _ _)) fun group _ _ _ =>
      .bind (.lift _) fun name _ _ _ => .bind (Page.memberBinding_leads group name)
        fun binding _ _ _ => (binding.resolve_leads (h_calm run h_run) name).weaken
          fun _ _ h_matched => h_matched.placed
  | groupRelative slot indices =>
    exact .of_leads fun _ _ => .bind (.of_keeps (Steady.declared _ _ _)) fun group _ _ _ =>
      .bind (.lift _) fun name _ _ _ => .bind (.of_keeps .read) fun _ _ _ _ =>
        Page.element_leads (Binding.query_leads _ none)
  | table => exact h.elim
  | nestedTable => exact h.elim
  | _ => exact .nothing ((Run.abides_lasting h_quiet).pageOperation rfl)

/-- Anything that a test does, tables apart, with the handles that it holds. -/
theorem Operation.givesPlaced (h_quiet : start.world.Quiet) {held : Held} {operation : Operation}
    (h_placed : PlacedAll start.world start held.handles) (h_on : operation.IsOn held)
    (h : operation.HonorsSlots page) : GivesPlaced page start operation.action := by
  cases operation with
  | onPage operation => exact PageOperation.givesPlaced h_quiet h
  | onHandle handle operation => exact operation.givesPlaced h_quiet (h_placed handle h_on)
  | onTable => exact h.elim
  | waitOneOf handles timeoutMs =>
    have h_wait : Yields ⟨Browser.driver, page⟩ start.Abides (Page.waitOneOf handles timeoutMs)
        fun handle => handle ∈ handles :=
      (Run.abides_lasting h_quiet).waitOneOf (fun handle h_mem =>
        Handle.perform_abides h_quiet (h_placed handle (h_on handle h_mem))) timeoutMs
    refine Triple.bind h_wait fun handle run h_run => ?_
    exact ⟨h_run.1, .singleton (h_run.1.placed (h_placed handle (h_on handle h_run.2)))⟩

-- ============================================================================
-- Whole tests
-- ============================================================================

/-- The states of a test that looks elements up and acts on them, with all that it holds. -/
inductive Using (stage : Browser) (page : Page) : Held → Run Browser → Prop
  | start : Using stage page {} { world := stage }
  | change {held : Held} {run : Run Browser} (change : Change) : Using stage page held run →
      change.isTame = true → Using stage page held { run with world := run.world.apply change }
  | operate {held : Held} {run : Run Browser} (operation : Operation) : Using stage page held run →
      operation.IsOn held → operation.HonorsSlots page →
      Using stage page ((gotten (operation.action ⟨Browser.driver, page⟩ run)).and held)
        (operation.action ⟨Browser.driver, page⟩ run).2

variable {held : Held}

theorem Operation.HonorsSlots.respectsNames {operation : Operation}
    (h : operation.HonorsSlots page) : operation.RespectsNames page.Honors page := by
  cases operation with
  | onPage operation =>
    cases operation with
    | table => trivial
    | nestedTable => trivial
    | _ => exact h
  | _ => trivial

theorem Using.reached (h : Using stage page held run) :
    Reached Browser.driver page (fun operation => operation.RespectsNames page.Honors page)
      held run := by
  induction h with
  | start => exact .start rfl
  | change _ _ _ ih => exact ih.change _
  | operate operation _ h_on h_honors ih => exact ih.operate operation h_on h_honors.respectsNames

/-- The browser is quiet, and all that the page remembers and the test holds is in its place. -/
structure InUse (held : Held) (run : Run Browser) : Prop where
  quiet : run.world.Quiet
  settled : Settled run.world run
  placed : PlacedAll run.world run held.handles

theorem Using.inUse (h_quiet : stage.Quiet) (h : Using stage page held run) : InUse held run := by
  induction h with
  | start =>
    exact ⟨h_quiet, ⟨⟨rfl, rfl⟩, rfl, fun _ _ h_find => nomatch h_find⟩,
      fun _ h_mem => nomatch h_mem⟩
  | @change held run change _ h_tame ih =>
    have h_frame := Browser.SameFrame.apply h_tame run.world
    have h_abides : run.Abides { run with world := run.world.apply change } :=
      .of_world ih.settled h_frame
    exact ⟨h_abides.quiet ih.quiet, h_abides.settled, h_abides.placedAll ih.placed⟩
  | @operate held run operation _ h_on h_honors ih =>
    have h_end := operation.givesPlaced ih.quiet ih.placed h_on h_honors run (.refl ih.settled)
    rcases h_action : operation.action ⟨Browser.driver, page⟩ run with ⟨e | got, run'⟩
    · rw [h_action] at h_end
      exact ⟨h_end.quiet ih.quiet, h_end.settled, h_end.placedAll ih.placed⟩
    · rw [h_action] at h_end
      obtain ⟨h_abides, h_got⟩ := h_end
      exact ⟨h_abides.quiet ih.quiet, h_abides.settled,
        List.forall_mem_append.mpr ⟨h_got, h_abides.placedAll ih.placed⟩⟩

end PageObjects
