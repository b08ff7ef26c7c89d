/-
  PageObjects.Proofs.Memory.Agreement

  What a page gives for a slot is what a query of the moment gives. A remembered handle
  may be old, a list may have been found again in part, and a handle from before a
  departure may have put itself into the memory again. None of that shows: while the
  same nodes are found on the page, a slot resolves to handles of all the nodes that its
  locator finds, in order, and it fails where the query fails.

    * `Matched.names`: the nodes of remembered handles.
    * `Binding.query_names`, `Binding.query_error_iff`: how a query ends.
    * `Page.resolve_names`, `Page.resolve_error_iff`: how a lookup of a slot ends.
    * `resolve_agrees`: the two side by side, at every moment of every test.
-/

import PageObjects.Proofs.Memory.Using

namespace PageObjects

open PageObjects.Action

variable {stage : Browser} {page : Page} {start run run' : Run Browser} {held : Held}
  {binding : Binding} {slot : String}

/-- The names of the nodes that a binding stands for, as the document finds them. -/
def Browser.namesOf (browser : Browser) (binding : Binding) : List String :=
  if binding.cardinality = .one then (browser.namesIn binding.locator).take 1
  else browser.namesIn binding.locator

/-- Resolved handles that answer to one binding only name the nodes of that binding. -/
theorem Matched.names {fits : Fits} {resolved : Resolved} (h : Matched stage run resolved)
    (h_sound : resolved.SoundAt fits slot) (h_fits : ∀ other, fits slot other → other = binding) :
    List.Forall₂ (Names stage run) resolved.toList (stage.namesOf binding) := by
  obtain ⟨h_stored, h_fitting⟩ := h_sound
  cases h_stored with
  | @one handle _ _ h_position h_ancestors =>
    obtain rfl := h_fits _ (h_fitting (.one handle.own.locator) (List.mem_singleton.mpr rfl))
    have h_placed := h.placed handle (List.mem_singleton.mpr rfl)
    have h_head : (stage.namesIn handle.own.locator).head? = some (run.nodeAt handle.own.id) := by
      have h_denoted := h_placed.denoted
      rw [h_ancestors, Browser.denoted?, h_position] at h_denoted
      exact h_denoted
    obtain ⟨rest, h_names⟩ := List.head?_eq_some_iff.mp h_head
    show List.Forall₂ _ [handle] ((stage.namesIn handle.own.locator).take 1)
    rw [h_names]
    exact .cons ⟨h_placed, rfl⟩ .nil
  | @many handles locator h_ne h_all =>
    obtain ⟨first, h_first⟩ := List.exists_mem_of_ne_nil _ h_ne
    have h_locator : ∀ handle ∈ handles, handle.own.locator = locator := by
      intro handle h_mem
      obtain ⟨index, h_index⟩ := List.mem_iff_getElem?.mp h_mem
      exact (h_all index handle h_index).1
    obtain rfl : Binding.many locator = binding := by
      rw [← h_locator first h_first]
      exact h_fits _ (h_fitting _ (List.mem_map.mpr ⟨first, h_first, rfl⟩))
    have h_length : handles.length = (stage.namesIn locator).length := by
      have h_whole := h.whole handles rfl first h_first
      rwa [h_locator first h_first] at h_whole
    refine List.forall₂_iff_get.mpr ⟨h_length, fun index h_lt h_lt' => ?_⟩
    obtain ⟨-, -, -, h_position, h_ancestors⟩ := h_all index _ (List.getElem?_eq_getElem h_lt)
    have h_placed := h.placed _ (List.getElem_mem h_lt)
    have h_denoted := h_placed.denoted
    rw [h_ancestors, Browser.denoted?, h_position, h_locator _ (List.getElem_mem h_lt)] at h_denoted
    have h_name : (stage.namesIn locator)[index]? = some (run.nodeAt handles[index].own.id) :=
      h_denoted
    exact ⟨h_placed, (List.getElem_eq_iff h_lt').mpr h_name |>.symm⟩

-- ============================================================================
-- Queries
-- ============================================================================

namespace Browser

theorem namesOf_eq_nil_iff (browser : Browser) (binding : Binding) :
    browser.namesOf binding = [] ↔ browser.namesIn binding.locator = [] := by
  rw [namesOf]
  split
  · rw [List.take_eq_nil_iff]
    simp
  · rfl

end Browser

namespace Binding

/-- The handles of a query name the nodes of the binding. -/
theorem query_names (binding : Binding) (slot : Option String) :
    Leads stage page start (binding.query slot) fun resolved run =>
      List.Forall₂ (Names stage run) resolved.toList (stage.namesOf binding) := by
  obtain ⟨locator, cardinality⟩ := binding
  have h_names : stage.namesUnder? locator [] = some (stage.namesIn locator) := rfl
  cases cardinality with
  | one =>
    refine .bind (sessionFind_leads locator _ _) fun reference run _ h_node => ?_
    refine .bind (Handle.register_names locator slot slot.isSome (Around.nil run) h_names h_node)
      fun handle run' _ h_handle => .pure fun run'' h_follows => ?_
    obtain ⟨rest, h_rest⟩ := List.head?_eq_some_iff.mp h_node
    show List.Forall₂ _ [handle] ((stage.namesIn locator).take 1)
    rw [h_rest]
    exact .cons (h_follows.names h_handle) .nil
  | many =>
    refine .bind (sessionFindAll_leads locator _ _) fun references run _ h_nodes => ?_
    dsimp only
    split
    · exact .throw_bind _ _
    · rw [← List.drop_zero (l := stage.namesIn locator)] at h_nodes
      refine .bind (Handle.registerAll_names locator slot (Around.nil run) h_names h_nodes)
        fun handles found _ h_handles => .pure fun last h_follows => ?_
      exact h_follows.names_all h_handles

/-- A query that finds nothing is an error. -/
theorem query_error (page : Page) (h : Settled stage run) (slot : Option String)
    (h_none : stage.namesIn binding.locator = []) :
    (binding.query slot ⟨Browser.driver, page⟩ run).1
      = .error (.elementNotFound binding.locator.display) := by
  obtain ⟨locator, cardinality⟩ := binding
  have h_none : stage.namesIn locator = [] := h_none
  cases cardinality with
  | one =>
    obtain ⟨found, h_run, -⟩ := @Gives.find stage page run h locator
      (slot.getD Link.anonymous) "find_element"
    rw [h_none] at h_run
    show ((Binding.one locator).query slot ⟨Browser.driver, page⟩ run).1 = _
    rw [query_one, run_bind, h_run]
    rfl
  | many =>
    obtain ⟨found, h_run, -⟩ := @Gives.findAll stage page run h locator
      (slot.getD Link.anonymous) "find_elements"
    rw [h_none] at h_run
    show ((sessionCall (.findAll locator) _ _ >>= _ : Action Browser Resolved) _ run).1 = _
    rw [run_bind, h_run]
    rfl

/-- A query that finds something succeeds. -/
theorem query_ok (page : Page) (h : Settled stage run) (slot : Option String)
    (h_some : stage.namesIn binding.locator ≠ []) :
    ∃ resolved, (binding.query slot ⟨Browser.driver, page⟩ run).1 = .ok resolved := by
  obtain ⟨locator, cardinality⟩ := binding
  obtain ⟨name, rest, h_names⟩ := List.exists_cons_of_ne_nil h_some
  have h_names : stage.namesIn locator = name :: rest := h_names
  cases cardinality with
  | one =>
    obtain ⟨found, h_run, -⟩ := @Gives.find stage page run h locator
      (slot.getD Link.anonymous) "find_element"
    rw [h_names] at h_run
    obtain ⟨handle, run', h_new, -⟩ := Handle.register_ok ⟨Browser.driver, page⟩ locator slot
      slot.isSome none [] ⟨name, run.world.rendering⟩ found
    refine ⟨.one handle, ?_⟩
    show ((Binding.one locator).query slot ⟨Browser.driver, page⟩ run).1 = _
    rw [query_one, run_bind_ok h_run, run_bind_ok h_new]
    rfl
  | many =>
    obtain ⟨found, h_run, -⟩ := @Gives.findAll stage page run h locator
      (slot.getD Link.anonymous) "find_elements"
    rw [h_names] at h_run
    obtain ⟨handles, run', h_new, -⟩ := Handle.registerAll_ok ⟨Browser.driver, page⟩ locator slot
      [] 0 _ found
    refine ⟨.many handles, ?_⟩
    show ((sessionCall (.findAll locator) _ _ >>= _ : Action Browser Resolved) _ run).1 = _
    rw [run_bind_ok h_run]
    show ((Handle.registerAll locator slot [] 0 _ >>= _ : Action Browser Resolved) _ found).1 = _
    rw [run_bind_ok h_new]
    rfl

/-- A query fails where the document finds nothing, and in no other way. -/
theorem query_error_iff (page : Page) (h : Settled stage run) (binding : Binding)
    (slot : Option String) (e : PageError) :
    (binding.query slot ⟨Browser.driver, page⟩ run).1 = .error e
      ↔ e = .elementNotFound binding.locator.display ∧ stage.namesOf binding = [] := by
  rw [stage.namesOf_eq_nil_iff]
  by_cases h_none : stage.namesIn binding.locator = []
  · rw [query_error page h slot h_none]
    simp [h_none, eq_comm]
  · obtain ⟨resolved, h_ok⟩ := query_ok page h slot h_none
    rw [h_ok]
    simp [h_none]

/-- Looks a binding up without the memory of the page. -/
def lookUp {W : Type} (binding : Binding) : Action W (List Handle) :=
  if binding.cardinality = .one then do return [← Page.find binding.locator]
  else Page.findAll binding.locator

theorem run_lookUp (page : Page) (binding : Binding) (run : Run Browser) :
    binding.lookUp ⟨Browser.driver, page⟩ run
      = (do return (← binding.query none).toList : Action Browser (List Handle))
          ⟨Browser.driver, page⟩ run := by
  obtain ⟨locator, cardinality⟩ := binding
  cases cardinality with
  | many => rfl
  | one =>
    show (do return [← Page.find locator] : Action Browser (List Handle)) _ run
      = (do return (← (Binding.one locator).query none).toList : Action Browser (List Handle)) _ run
    simp only [Page.find, query_one, run_bind]
    rcases sessionCall (.find locator) _ "find_element" ⟨Browser.driver, page⟩ run with
      ⟨e | reference, found⟩ <;> rfl

theorem lookUp_error_iff (page : Page) (h : Settled stage run) (binding : Binding) (e : PageError) :
    (binding.lookUp ⟨Browser.driver, page⟩ run).1 = .error e
      ↔ e = .elementNotFound binding.locator.display ∧ stage.namesOf binding = [] := by
  rw [run_lookUp, ← query_error_iff page h binding none, run_bind]
  rcases binding.query none ⟨Browser.driver, page⟩ run with ⟨other | resolved, found⟩
  · simp
  · simp [run_pure]

/-- A search for what is remembered never fails. -/
theorem live?_ok (page : Page) (slot : String) (run : Run Browser) :
    ∃ found run', live? slot ⟨Browser.driver, page⟩ run = (.ok found, run') := by
  rw [live?, run_bind_ok (run_cached? slot run)]
  cases run.memory.cache.find? slot with
  | none => exact ⟨none, run, rfl⟩
  | some value =>
    cases value with
    | table found => exact ⟨none, run, rfl⟩
    | elements resolved =>
      dsimp only
      cases resolved.toList with
      | nil => exact ⟨none, run, rfl⟩
      | cons first rest => exact ⟨_, _, rfl⟩

end Binding

-- ============================================================================
-- Slots
-- ============================================================================

namespace Page

/-- The handles of a slot name the nodes of its binding, be they remembered or found anew. -/
theorem resolve_names (h : InUse held run) (h_sound : run.Sound page.Honors)
    (h_slot : page.elements.find? slot = some binding) {resolved : Resolved}
    (h_ok : resolve slot ⟨Browser.driver, page⟩ run = (.ok resolved, run')) :
    Follows run.world run run'
      ∧ resolved.toList ≠ []
      ∧ List.Forall₂ (Names run.world run') resolved.toList (run.world.namesOf binding) := by
  have h_end := @resolve_leads run.world page run h.quiet.calm slot run (.refl h.settled)
  rw [h_ok] at h_end
  obtain ⟨h_follows, h_matched⟩ := h_end
  have h_stored : resolved.SoundAt page.Honors slot :=
    (resolve_yields fun _ => honors_declared).of_ok h_sound (congrArg Prod.fst h_ok)
  exact ⟨h_follows, h_stored.stored.toList_ne_nil,
    h_matched.names h_stored fun other h_other => h_other binding h_slot⟩

/-- A lookup of a slot fails where the document finds nothing, and in no other way. -/
theorem resolve_error_iff (h : InUse held run) (h_sound : run.Sound page.Honors)
    (h_slot : page.elements.find? slot = some binding)
    (h_opened : (checkOpened ⟨Browser.driver, page⟩ run).1 = .ok ()) (e : PageError) :
    (resolve slot ⟨Browser.driver, page⟩ run).1 = .error e
      ↔ e = .elementNotFound binding.locator.display ∧ run.world.namesOf binding = [] := by
  have h_calm := h.quiet.calm
  obtain ⟨opened, h_check, h_follows⟩ : ∃ opened,
      checkOpened ⟨Browser.driver, page⟩ run = (.ok (), opened)
        ∧ Follows run.world run opened := by
    have h_keeps : Keeps ⟨Browser.driver, page⟩ (Follows run.world run) checkOpened :=
      (Follows.lasting h_calm).checkOpened
    exact ⟨_, Prod.ext h_opened rfl, Keeps.iff.mp h_keeps run (.refl h.settled)⟩
  obtain ⟨found, looked, h_live⟩ := Binding.live?_ok page slot opened
  have h_looked := @Binding.live?_leads run.world page opened h_calm slot opened
    (.refl h_follows.settled)
  rw [h_live] at h_looked
  cases found with
  | some resolved =>
    have h_resolve : resolve slot ⟨Browser.driver, page⟩ run = (.ok resolved, looked) := by
      rw [resolve, run_bind_ok (run_declared h_slot run), Binding.resolve, run_bind_ok h_check,
        run_bind_ok h_live]
      rfl
    obtain ⟨-, h_ne, h_names⟩ := resolve_names h h_sound h_slot h_resolve
    rw [h_resolve]
    refine ⟨fun h_error => (nomatch h_error), fun ⟨_, h_none⟩ => ?_⟩
    rw [h_none] at h_names
    exact absurd (List.forall₂_nil_right_iff.mp h_names) h_ne
  | none =>
    have h_resolve : resolve slot ⟨Browser.driver, page⟩ run
        = (do
          let resolved ← binding.query (some slot)
          remember slot (.elements resolved)
          return resolved : Action Browser Resolved) ⟨Browser.driver, page⟩ looked := by
      rw [resolve, run_bind_ok (run_declared h_slot run), Binding.resolve, run_bind_ok h_check,
        run_bind_ok h_live]
    rw [h_resolve, ← Binding.query_error_iff page h_looked.1.settled binding (some slot),
      run_bind]
    rcases binding.query (some slot) ⟨Browser.driver, page⟩ looked with ⟨other | resolved, asked⟩
    · rfl
    · exact ⟨fun h_error => (nomatch h_error), fun h_error => (nomatch h_error)⟩

end Page

-- ============================================================================
-- Both lookups
-- ============================================================================

/-- Handles stand for nodes: each of them names its node and reads as that node. -/
def StandFor (page : Page) (run : Run Browser) (handles : List Handle) (names : List String) :
    Prop :=
  List.Forall₂ (fun handle name => run.nodeAt handle.own.id = name
    ∧ ReadsAs page run handle (run.world.node name)) handles names

/-- After a lookup the handles that name nodes stand for them. -/
theorem Follows.standFor (h : Follows run.world run run') (h_quiet : run.world.Quiet)
    {handles : List Handle} {names : List String}
    (h_names : List.Forall₂ (Names run.world run') handles names) :
    StandFor page run' handles names := by
  have h_abides := Run.Abides.of_follows h
  refine h_names.imp fun handle name ⟨h_placed, h_name⟩ => ⟨h_name, ?_⟩
  rw [← h_name]
  exact (h_placed.of_sameFrame h_abides.frame).readsAs (h_abides.quiet h_quiet).calm
    h_abides.settled

theorem Using.sound (h : Using stage page held run) : run.Sound page.Honors :=
  (h.reached.sound fun _ h_operation => h_operation).1

/-- At every moment of a test at which the page is open, what is given for a slot stands for the
    same nodes, in the same order, as what a query of that moment gives, and these are the nodes
    that the document finds; and the lookup of the slot fails exactly where the query fails, which
    is where the document finds nothing. -/
theorem resolve_agrees (h_quiet : stage.Quiet) (h_using : Using stage page held run)
    (h_slot : page.elements.find? slot = some binding)
    (h_opened : (Page.checkOpened ⟨Browser.driver, page⟩ run).1 = .ok ()) :
    (∀ resolved after, Page.resolve slot ⟨Browser.driver, page⟩ run = (.ok resolved, after) →
      ∃ handles later, binding.lookUp ⟨Browser.driver, page⟩ run = (.ok handles, later)
        ∧ StandFor page after resolved.toList (run.world.namesOf binding)
        ∧ StandFor page later handles (run.world.namesOf binding))
    ∧ (∀ e, (Page.resolve slot ⟨Browser.driver, page⟩ run).1 = .error e
        ↔ (binding.lookUp ⟨Browser.driver, page⟩ run).1 = .error e)
    ∧ ∀ e, (Page.resolve slot ⟨Browser.driver, page⟩ run).1 = .error e
        ↔ e = .elementNotFound binding.locator.display ∧ run.world.namesOf binding = [] := by
  have h_in := h_using.inUse h_quiet
  have h_fails := Page.resolve_error_iff h_in h_using.sound h_slot h_opened
  have h_misses := Binding.lookUp_error_iff page h_in.settled binding
  refine ⟨fun resolved after h_ok => ?_, fun e => (h_fails e).trans (h_misses e).symm, h_fails⟩
  obtain ⟨h_follows, h_ne, h_names⟩ := Page.resolve_names h_in h_using.sound h_slot h_ok
  have h_asked := @Binding.query_names run.world page run binding none run (.refl h_in.settled)
  have h_run := Binding.run_lookUp page binding run
  rw [run_bind] at h_run
  rcases h_query : binding.query none ⟨Browser.driver, page⟩ run with ⟨e | found, later⟩
  · -- the query fails where the document finds nothing, and the slot gives something
    obtain ⟨-, h_none⟩ := (Binding.query_error_iff page h_in.settled binding none e).mp
      (congrArg Prod.fst h_query)
    rw [h_none] at h_names
    exact absurd (List.forall₂_nil_right_iff.mp h_names) h_ne
  · rw [h_query] at h_run h_asked
    exact ⟨found.toList, later, h_run, h_follows.standFor h_in.quiet h_names,
      h_asked.1.standFor h_in.quiet h_asked.2⟩

/-- A page with a slot for all rows. -/
def Page.withRows : Page :=
  { Page.bare with elements := [("rows", .many (.css ".row"))] }

/-- The first row was found again by typing into it, and the second one has gone stale: the list is
    given as it is, and it stands for the same rows as the two that a query finds. -/
theorem resolve_agrees_rows : ∃ held run resolved after handles later,
    Using Browser.twoRows Page.withRows held run
      ∧ Page.resolve "rows" ⟨Browser.driver, .withRows⟩ run = (.ok resolved, after)
      ∧ resolved.toList.map (fun handle => (after.referenceAt handle.own.id).rendering) = [2, 1]
      ∧ (Binding.many (.css ".row")).lookUp ⟨Browser.driver, .withRows⟩ run = (.ok handles, later)
      ∧ StandFor .withRows after resolved.toList ["row-1", "row-2"]
      ∧ StandFor .withRows later handles ["row-1", "row-2"] := by
  let first : Handle := ⟨⟨0, .css ".row", some "rows", false, some 0⟩, []⟩
  have h_start : Using Browser.twoRows Page.withRows {} { world := Browser.twoRows } := .start
  have h_rows := (h_start.operate (.onPage (.visit none [])) trivial trivial).operate
    (.onPage (.elementList "rows")) trivial fun _ => Page.honors_declared
  have h_typed := (h_rows.change .rerender rfl).operate (.onHandle first (.call (.sendKeys "x")))
    (by show first ∈ Held.handles _; decide +kernel) trivial
  have h_quiet : Browser.twoRows.Quiet := Browser.quiet_of_forall (by simp [Browser.twoRows])
  obtain ⟨held, run, h_using, h_opened, h_names, h_partly⟩ : ∃ held run,
      Using Browser.twoRows Page.withRows held run
        ∧ (Page.checkOpened ⟨Browser.driver, .withRows⟩ run).1.isOk = true
        ∧ run.world.namesOf (.many (.css ".row")) = ["row-1", "row-2"]
        ∧ (Page.resolve "rows" ⟨Browser.driver, .withRows⟩ run).1.toOption.map
            (fun resolved => resolved.toList.map fun handle =>
              ((Page.resolve "rows" ⟨Browser.driver, .withRows⟩ run).2.referenceAt
                handle.own.id).rendering) = some [2, 1] :=
    ⟨_, _, h_typed, by decide +kernel, by decide +kernel, by decide +kernel⟩
  have h_opened : (Page.checkOpened ⟨Browser.driver, .withRows⟩ run).1 = .ok () := by
    revert h_opened
    rcases (Page.checkOpened ⟨Browser.driver, .withRows⟩ run).1 with e | _
    · exact fun h_error => nomatch h_error
    · exact fun _ => rfl
  have h_slot : Page.withRows.elements.find? "rows" = some (.many (.css ".row")) := rfl
  obtain ⟨h_agrees, -⟩ := resolve_agrees h_quiet h_using h_slot h_opened
  rcases h_resolve : Page.resolve "rows" ⟨Browser.driver, .withRows⟩ run with ⟨e | resolved, after⟩
  · rw [h_resolve] at h_partly
    cases h_partly
  · rw [h_resolve] at h_partly
    obtain ⟨handles, later, h_lookUp, h_both⟩ := h_agrees resolved after h_resolve
    rw [h_names] at h_both
    exact ⟨held, run, resolved, after, handles, later, h_using, h_resolve,
      Option.some.inj h_partly, h_lookUp, h_both⟩

end PageObjects
