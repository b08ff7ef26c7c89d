/-
  PageObjects.Proofs.Memory.Query

  One lookup of a slot in the browser in memory. What is at hand for a slot
  (`Run.atHand?`) is what is remembered for it, but handles only as long as the first of
  them refers to the present rendering of the page. A table stays at hand.

    * `Run.Still`: what calls that only look leave as it is, the rendering and the
      references of the handles that were there before.
    * `Run.Serves`: a lookup that ends well gives what is at hand, or it finds and
      remembers what was not.
    * `Page.resolve_serves`, `Page.table_serves`: the lookups of the two kinds of slots.
-/

import PageObjects.Proofs.Memory.Failure
import PageObjects.Proofs.Page.Slots

namespace PageObjects

open PageObjects.Action

variable {W α β : Type} {page : Page} {start run : Run Browser} {slot : String}

-- ============================================================================
-- Searches and renderings
-- ============================================================================

/-- A search of the document that has found something. -/
def Exchange.hasFound : Exchange → Bool
  | ⟨.session (.find _), .ok _, _⟩ => true
  | ⟨.session (.findAll _), .ok (_ :: _), _⟩ => true
  | _ => false

/-- How many searches of the document have found something. -/
def Run.searches (run : Run W) : Nat :=
  run.transcript.countP Exchange.hasFound

theorem Run.searches_exchange (driver : Driver W) (call : Call) (run : Run W) :
    (run.exchange driver call).2.searches = run.searches
      + if Exchange.hasFound ⟨call, (run.exchange driver call).1, run.memory⟩ then 1 else 0 :=
  List.countP_cons

namespace Browser

theorem reach_rendering (reference : Reference) (browser : Browser) :
    (browser.reach reference).2.rendering = browser.rendering := by
  obtain ⟨nodes, h_reach⟩ := exists_reach_eq reference browser
  rw [h_reach]

/-- Calls that only look render nothing anew. -/
theorem answer_rendering (browser : Browser) {call : Call} (h_call : call.isDeparture = false)
    (h_harmless : call.isHarmless = true) :
    (browser.answer call).2.rendering = browser.rendering := by
  cases call with
  | provider call =>
    cases call with
    | quit => rfl
    | session fresh => cases fresh <;> rfl
  | session call =>
    cases call with
    | navigate | switchToWindow | closeWindow => cases h_call
    | _ => rfl
  | element reference call =>
    have h_reach := reach_rendering reference browser
    cases call with
    | isStale => rfl
    | click | sendKeys | clear => cases h_harmless
    | _ =>
      simp only [answer, elementAnswer]
      split <;> rename_i h_reached <;> rw [h_reached] at h_reach <;> exact h_reach

end Browser

/-- Since `start` the cache, the references of the handles of then and the rendering are the
    same. -/
structure Run.Still (start run : Run Browser) : Prop extends start.Spared run where
  rendering : run.world.rendering = start.world.rendering

theorem Run.still_steady (page : Page) (start : Run Browser) :
    Steady ⟨Browser.driver, page⟩ start.Still where
  exchange call run h_call h_harmless h_run := by
    have h_steady := Run.spared_steady ⟨Browser.driver, page⟩ start
    refine ⟨h_steady.exchange call run h_call h_harmless h_run.toSpared, ?_⟩
    exact (run.world.answer_rendering h_call h_harmless).trans h_run.rendering
  pause ms run h_run := ⟨(Run.spared_steady _ start).pause ms run h_run.toSpared, h_run.rendering⟩
  newHandle run h_run := by
    obtain ⟨h_new, h_later⟩ :=
      (Run.spared_steady ⟨Browser.driver, page⟩ start).newHandle run h_run.toSpared
    exact ⟨fun reference => ⟨h_new reference, h_run.rendering⟩, fun reference later h_end =>
      ⟨h_later reference later h_end.toSpared, h_end.rendering⟩⟩

/-- Still, and no search has found anything. -/
structure Run.Idle (start run : Run Browser) : Prop extends start.Still run where
  searches : run.searches = start.searches

theorem Run.Idle.refl (run : Run Browser) : run.Idle run :=
  ⟨⟨.refl run, rfl⟩, rfl⟩

/-- A call that only looks, and is no search that finds something. -/
theorem Run.Idle.exchange (h : start.Idle run) {call : Call} (h_call : call.isDeparture = false)
    (h_harmless : call.isHarmless = true)
    (h_missed :
      Exchange.hasFound ⟨call, (run.exchange Browser.driver call).1, run.memory⟩ = false) :
    start.Idle (run.exchange Browser.driver call).2 := by
  refine ⟨(Run.still_steady .bare start).exchange call run h_call h_harmless h.toStill, ?_⟩
  rw [Run.searches_exchange, h_missed]
  exact h.searches

-- ============================================================================
-- What is at hand
-- ============================================================================

/-- Whether a value needs no other query: a table, or handles the first of which refers to the
    present rendering. -/
def Cached.isCurrent (run : Run Browser) : Cached → Bool
  | .table _ => true
  | .elements resolved =>
    match resolved.toList with
    | [] => false
    | first :: _ => (run.referenceAt first.own.id).rendering == run.world.rendering

/-- The value that is remembered for a slot, if it needs no other query. -/
def Run.atHand? (slot : String) (run : Run Browser) : Option Cached :=
  (run.memory.cache.find? slot).filter fun value => value.isCurrent run

/-- The handles of a value. -/
def Cached.resolved? : Cached → Option Resolved
  | .elements resolved => some resolved
  | .table _ => none

/-- The table of a value. -/
def Cached.table? : Cached → Option Table
  | .elements _ => none
  | .table found => some found

/-- The state in which a value is remembered besides. -/
def Run.remembering (slot : String) (value : Cached) (run : Run W) : Run W :=
  { run with memory := { run.memory with cache := run.memory.cache.put slot value } }

/-- Whether a value may be remembered for a slot: the slot is declared as one of its kind, and all
    handles have numbers below `limit`. -/
def Cached.MayStand (page : Page) (limit : Nat) (slot : String) : Cached → Prop
  | .elements resolved => (page.elements.find? slot).isSome = true
      ∧ ∀ handle ∈ resolved.toList, handle.own.id < limit
  | .table _ => (page.tables.find? slot).isSome = true

/-- Every value that is remembered may be. -/
def Run.Orderly (page : Page) (run : Run Browser) : Prop :=
  ∀ slot value, run.memory.cache.find? slot = some value → value.MayStand page run.nextId slot

theorem Cached.MayStand.mono {value : Cached} {limit limit' : Nat}
    (h : value.MayStand page limit slot) (h_le : limit ≤ limit') :
    value.MayStand page limit' slot := by
  cases value with
  | table => exact h
  | elements resolved =>
    exact ⟨h.1, fun handle h_mem => Nat.lt_of_lt_of_le (h.2 handle h_mem) h_le⟩

theorem Run.Still.orderly (h : start.Still run) (h_start : start.Orderly page) :
    run.Orderly page := by
  intro slot value h_find
  rw [h.cache] at h_find
  exact (h_start slot value h_find).mono h.nextId_le

/-- What is at hand for a slot stays at hand. -/
theorem Run.Still.atHand?_eq (h : start.Still run) (h_start : start.Orderly page) (slot : String) :
    run.atHand? slot = start.atHand? slot := by
  rw [Run.atHand?, Run.atHand?, h.cache]
  cases h_find : start.memory.cache.find? slot with
  | none => rfl
  | some value =>
    have h_same : value.isCurrent run = value.isCurrent start := by
      cases value with
      | table => rfl
      | elements resolved =>
        rw [Cached.isCurrent, Cached.isCurrent, h.rendering]
        cases h_list : resolved.toList with
        | nil => rfl
        | cons first rest =>
          have h_lt : first.own.id < start.nextId := by
            apply (h_start slot _ h_find).2 first
            rw [h_list]
            exact List.mem_cons_self
          have h_reference : run.referenceAt first.own.id = start.referenceAt first.own.id := by
            rw [Run.referenceAt, h.references _ h_lt, ← Run.referenceAt]
          dsimp only
          rw [h_reference]
    rw [Option.filter_some, Option.filter_some, h_same]

theorem Run.atHand?_remembering_self (run : Run Browser) {value : Cached}
    (h : value.isCurrent run = true) : (run.remembering slot value).atHand? slot = some value := by
  have h_find : (run.remembering slot value).memory.cache.find? slot = some value :=
    Keyed.find?_put_self _ _ _
  rw [Run.atHand?, h_find, Option.filter_some]
  exact if_pos h

theorem Run.atHand?_remembering_of_ne (run : Run Browser) {other : String} (h_ne : slot ≠ other)
    (value : Cached) : (run.remembering slot value).atHand? other = run.atHand? other := by
  have h_find : (run.remembering slot value).memory.cache.find? other
      = run.memory.cache.find? other := Keyed.find?_put_of_ne h_ne _ _
  rw [Run.atHand?, h_find]
  rfl

/-- A table is at hand whenever it is remembered. -/
theorem Run.atHand?_bind_table? (slot : String) (run : Run Browser) :
    (run.atHand? slot).bind Cached.table?
      = (run.memory.cache.find? slot).bind Cached.table? := by
  rw [Run.atHand?]
  rcases run.memory.cache.find? slot with _ | value
  · rfl
  · rw [Option.filter_some]
    cases value with
    | table => rfl
    | elements resolved => split <;> rfl

theorem Run.Orderly.remembering (h : run.Orderly page) {value : Cached}
    (h_value : value.MayStand page run.nextId slot) :
    (run.remembering slot value).Orderly page := by
  intro other found h_find
  have h_find : (run.memory.cache.put slot value).find? other = some found := h_find
  by_cases h_slot : slot = other
  · subst h_slot
    rw [Keyed.find?_put_self] at h_find
    exact Option.some.inj h_find ▸ h_value
  · rw [Keyed.find?_put_of_ne h_slot] at h_find
    exact h other found h_find

theorem Run.Orderly.mayStand (h : run.Orderly page) {value : Cached}
    (h_value : run.atHand? slot = some value) : value.MayStand page run.nextId slot :=
  h slot value (Option.eq_some_of_filter_eq_some h_value)

-- ============================================================================
-- Queries
-- ============================================================================

/-- New handles of some references, and nothing else. -/
structure Run.Registers (start run : Run W) (references : List Reference) (handles : List Handle) :
    Prop where
  world : run.world = start.world
  transcript : run.transcript = start.transcript
  spared : start.Spared run
  length_eq : handles.length = references.length
  id_lt : ∀ handle ∈ handles, handle.own.id < run.nextId
  reference_mem : ∀ handle ∈ handles, run.referenceAt handle.own.id ∈ references

namespace Handle

theorem run_register (context : Context W) (locator : Locator) (slot : Option String)
    (memoizes : Bool) (position : Option Nat) (ancestors : List Link) (reference : Reference)
    (run : Run W) :
    ∃ handle after,
      register locator slot memoizes position ancestors reference context run = (.ok handle, after)
        ∧ run.Registers after [reference] [handle] := by
  refine ⟨_, _, rfl, rfl, rfl, ⟨rfl, Nat.le_succ _, fun id h_id => ?_⟩, rfl, ?_, ?_⟩
  · exact Keyed.find?_put_of_ne (Nat.ne_of_gt h_id) _ _
  · intro handle h_mem
    obtain rfl := List.mem_singleton.mp h_mem
    exact Nat.lt_succ_self _
  · intro handle h_mem
    obtain rfl := List.mem_singleton.mp h_mem
    rw [Run.referenceAt, Keyed.find?_put_self]
    exact List.mem_singleton.mpr rfl

theorem run_registerAll (context : Context W) (locator : Locator) (slot : Option String)
    (ancestors : List Link) (position : Nat) (references : List Reference) (run : Run W) :
    ∃ handles after,
      registerAll locator slot ancestors position references context run = (.ok handles, after)
        ∧ run.Registers after references handles := by
  induction references generalizing position run with
  | nil =>
    have h_none : ∀ {property : Handle → Prop}, ∀ handle ∈ ([] : List Handle), property handle :=
      fun _ h_mem => nomatch h_mem
    exact ⟨[], run, rfl, rfl, rfl, .refl run, rfl, h_none, h_none⟩
  | cons reference rest ih =>
    obtain ⟨first, mid, h_first, h_mid⟩ := run_register context locator slot false (some position)
      ancestors reference run
    obtain ⟨handles, after, h_rest, h_after⟩ := ih (position + 1) mid
    have h_lt : first.own.id < mid.nextId := h_mid.id_lt first List.mem_cons_self
    refine ⟨first :: handles, after, ?_, h_after.world.trans h_mid.world,
      h_after.transcript.trans h_mid.transcript, h_mid.spared.trans h_after.spared, ?_, ?_, ?_⟩
    · rw [registerAll, run_bind_ok h_first, run_bind_ok h_rest]
      rfl
    · rw [List.length_cons, List.length_cons, h_after.length_eq]
    · exact List.forall_mem_cons.mpr
        ⟨Nat.lt_of_lt_of_le h_lt h_after.spared.nextId_le, h_after.id_lt⟩
    · refine List.forall_mem_cons.mpr ⟨?_, fun handle h_mem =>
        List.mem_cons_of_mem _ (h_after.reference_mem handle h_mem)⟩
      -- the handles that come later leave the reference of the first one alone
      rw [Run.referenceAt, h_after.spared.references _ h_lt, ← Run.referenceAt,
        List.mem_singleton.mp (h_mid.reference_mem first List.mem_cons_self)]
      exact List.mem_cons_self

end Handle

/-- One search has found something, and all of `resolved` are new handles of that. -/
structure Run.Asked (start : Run Browser) (resolved : Resolved) (run : Run Browser) : Prop where
  still : start.Still run
  searches : run.searches = start.searches + 1
  filled : resolved.Filled
  id_lt : ∀ handle ∈ resolved.toList, handle.own.id < run.nextId
  rendering : ∀ handle ∈ resolved.toList,
    (run.referenceAt handle.own.id).rendering = start.world.rendering

/-- One search has found something, with references to it in the present rendering. -/
structure Run.Searched (start : Run Browser) (references : List Reference) (run : Run Browser) :
    Prop where
  still : start.Still run
  searches : run.searches = start.searches + 1
  filled : references ≠ []
  rendering : ∀ reference ∈ references, reference.rendering = start.world.rendering

/-- A search that has found something. -/
theorem Run.Idle.searched (h : start.Idle run) {call : SessionCall} {name : String}
    {rest : List String} (h_call : (Call.session call).isDeparture = false)
    (h_found : Exchange.hasFound
      ⟨.session call, (run.exchange Browser.driver (.session call)).1, run.memory⟩ = true) :
    start.Searched (run.world.references (name :: rest))
      (run.exchange Browser.driver (.session call)).2 := by
  refine ⟨(Run.still_steady .bare start).exchange (.session call) run h_call rfl h.toStill, ?_,
    List.cons_ne_nil _ _, fun reference h_mem => ?_⟩
  · rw [Run.searches_exchange, h_found, h.searches]
    rfl
  · obtain ⟨other, -, rfl⟩ := List.mem_map.mp h_mem
    exact h.rendering

/-- New handles of what a search has found. -/
theorem Run.Searched.asked {references : List Reference} {after : Run Browser} {resolved : Resolved}
    (h : start.Searched references run) (h_after : run.Registers after references resolved.toList) :
    start.Asked resolved after := by
  have h_spared := h.still.toSpared.trans h_after.spared
  refine ⟨⟨h_spared, ?_⟩, ?_, ?_, h_after.id_lt, ?_⟩
  · rw [h_after.world]
    exact h.still.rendering
  · rw [Run.searches, h_after.transcript]
    exact h.searches
  · intro h_nil
    apply h.filled
    rw [← List.length_eq_zero_iff, ← h_after.length_eq, h_nil, List.length_nil]
  · intro handle h_mem
    exact h.rendering _ (h_after.reference_mem handle h_mem)

theorem find_searched (locator : Locator) (name operation : String) :
    Triple ⟨Browser.driver, page⟩ start.Idle (sessionCall (.find locator) name operation)
      (fun reference run => start.Searched [reference] run) fun _ => start.Idle := by
  intro run h_run
  have h_answer : (run.exchange Browser.driver (.session (.find locator))).1
      = Browser.first locator (run.world.references (run.world.namesIn locator)) := rfl
  rw [run_sessionCall, h_answer]
  cases h_names : run.world.namesIn locator with
  | nil =>
    rw [h_names] at h_answer
    exact h_run.exchange rfl rfl (by rw [h_answer]; rfl)
  | cons first rest =>
    rw [h_names] at h_answer
    have h_searched : start.Searched (run.world.references [first])
        (run.exchange Browser.driver (.session (.find locator))).2 :=
      h_run.searched rfl (by rw [h_answer]; rfl)
    exact h_searched

theorem findAll_searched (locator : Locator) (name operation : String) :
    Triple ⟨Browser.driver, page⟩ start.Idle (sessionCall (.findAll locator) name operation)
      (fun references run => references = [] ∧ start.Idle run ∨ start.Searched references run)
      fun _ => start.Idle := by
  intro run h_run
  have h_answer : (run.exchange Browser.driver (.session (.findAll locator))).1
      = .ok (run.world.references (run.world.namesIn locator)) := rfl
  rw [run_sessionCall, h_answer]
  cases h_names : run.world.namesIn locator with
  | nil =>
    rw [h_names] at h_answer
    exact .inl ⟨rfl, h_run.exchange rfl rfl (by rw [h_answer]; rfl)⟩
  | cons first rest =>
    rw [h_names] at h_answer
    exact .inr (h_run.searched rfl (by rw [h_answer]; rfl))

namespace Binding

/-- A query makes one search, and fails if that finds nothing. -/
theorem query_asked (binding : Binding) (slot : Option String) :
    Triple ⟨Browser.driver, page⟩ start.Idle (binding.query slot)
      (fun resolved run => start.Asked resolved run) fun _ => start.Idle := by
  rw [query]
  cases binding.cardinality with
  | one =>
    refine Triple.bind (find_searched _ _ _) fun reference run h_searched => ?_
    obtain ⟨handle, after, h_register, h_after⟩ := Handle.run_register
      ⟨Browser.driver, page⟩ binding.locator slot slot.isSome none [] reference run
    rw [run_bind_ok h_register]
    exact h_searched.asked h_after
  | many =>
    refine Triple.bind (findAll_searched _ _ _) fun references run h_end => ?_
    dsimp only
    rcases h_end with ⟨rfl, h_idle⟩ | h_searched
    · exact h_idle
    · obtain ⟨handles, after, h_register, h_after⟩ := Handle.run_registerAll
        ⟨Browser.driver, page⟩ binding.locator slot [] 0 references run
      have h_some : ¬references.isEmpty = true := by
        rw [List.isEmpty_iff]
        exact h_searched.filled
      rw [if_neg h_some, run_bind_ok h_register]
      exact h_searched.asked h_after

/-- The handles that are at hand for a slot are those that are not stale. -/
theorem run_live? (slot : String) (run : Run Browser) : ∃ looked,
    live? slot ⟨Browser.driver, page⟩ run
      = (.ok ((run.atHand? slot).bind Cached.resolved?), looked)
      ∧ ∀ start : Run Browser, start.Idle run → start.Idle looked := by
  rw [live?, run_bind_ok (run_cached? slot run), Run.atHand?]
  cases run.memory.cache.find? slot with
  | none => exact ⟨run, rfl, fun _ h_run => h_run⟩
  | some value =>
    rw [Option.filter_some]
    cases value with
    | table => exact ⟨run, rfl, fun _ h_run => h_run⟩
    | elements resolved =>
      dsimp only
      rw [Cached.isCurrent]
      cases resolved.toList with
      | nil => exact ⟨run, rfl, fun _ h_run => h_run⟩
      | cons first rest =>
        have h_stale : first.isStale ⟨Browser.driver, page⟩ run
            = (.ok ((run.referenceAt first.own.id).rendering != run.world.rendering),
              (run.exchange Browser.driver
                (.element (run.referenceAt first.own.id) .isStale)).2) := rfl
        dsimp only
        rw [run_bind_ok h_stale]
        refine ⟨(run.exchange Browser.driver
          (.element (run.referenceAt first.own.id) .isStale)).2, ?_,
          fun _ h_run => h_run.exchange rfl rfl rfl⟩
        by_cases h_live : (run.referenceAt first.own.id).rendering = run.world.rendering
        · simp [h_live, Cached.resolved?, run_pure]
        · simp [h_live, run_pure]

theorem live?_idle (slot : String) (h_start : start.Orderly page) :
    Triple ⟨Browser.driver, page⟩ start.Idle (live? slot)
      (fun found run => found = (start.atHand? slot).bind Cached.resolved? ∧ start.Idle run)
      fun _ => start.Idle := by
  intro run h_run
  obtain ⟨looked, h_live, h_idle⟩ := @run_live? page slot run
  rw [h_live]
  exact ⟨by rw [h_run.toStill.atHand?_eq h_start], h_idle start h_run⟩

end Binding

-- ============================================================================
-- Lookups
-- ============================================================================

theorem Cached.filled_of_isCurrent {resolved : Resolved}
    (h : (Cached.elements resolved).isCurrent run = true) : resolved.Filled := by
  intro h_nil
  rw [Cached.isCurrent, h_nil] at h
  cases h

/-- A value was found that may be remembered for a slot; one search finds the handles of it. -/
structure Run.Finds (page : Page) (start : Run Browser) (slot : String) (value : Cached)
    (asked : Run Browser) : Prop where
  still : start.Still asked
  mayStand : value.MayStand page asked.nextId slot
  isCurrent : value.isCurrent asked = true
  searches : ∀ resolved, value = .elements resolved → asked.searches = start.searches + 1

/-- A lookup gives the value that is at hand for a slot, or it remembers the one that it has found,
    where none was at hand. -/
inductive Run.Serves (page : Page) (start : Run Browser) (slot : String) (value : Cached) :
    Run Browser → Prop
  | kept {run : Run Browser} : start.atHand? slot = some value → start.Idle run →
      Serves page start slot value run
  | found {asked : Run Browser} : start.atHand? slot = none → start.Finds page slot value asked →
      Serves page start slot value (asked.remembering slot value)

theorem checkOpened_idle : Keeps ⟨Browser.driver, page⟩ start.Idle Page.checkOpened :=
  Page.checkOpened_keeps fun _ h_run => h_run.exchange rfl rfl rfl

/-- What a query for a declared slot finds may be remembered for it. -/
theorem Run.Asked.finds {resolved : Resolved} (h : start.Asked resolved run)
    (h_slot : (page.elements.find? slot).isSome = true) :
    start.Finds page slot (.elements resolved) run := by
  refine ⟨h.still, ⟨h_slot, h.id_lt⟩, ?_, fun _ _ => h.searches⟩
  rw [Cached.isCurrent]
  cases h_list : resolved.toList with
  | nil => exact absurd h_list h.filled
  | cons first rest =>
    have h_first : first ∈ resolved.toList := h_list ▸ List.mem_cons_self
    exact beq_iff_eq.mpr ((h.rendering first h_first).trans h.still.rendering.symm)

namespace Page

theorem resolve_serves (slot : String) (h_start : start.Orderly page) (h_apart : page.Apart) :
    Triple ⟨Browser.driver, page⟩ start.Idle (resolve slot)
      (fun resolved run => start.Serves page slot (.elements resolved) run)
      fun _ => start.Idle := by
  refine Triple.bind (declared_yields _ _ slot) fun binding run h_end => ?_
  obtain ⟨h_idle, h_declared⟩ := h_end
  have h_slot : (page.elements.find? slot).isSome = true := Option.isSome_of_eq_some h_declared
  suffices h : Triple ⟨Browser.driver, page⟩ start.Idle (binding.resolve slot)
      (fun resolved run => start.Serves page slot (.elements resolved) run) fun _ => start.Idle from
    h run h_idle
  refine Triple.bind checkOpened_idle fun _ => Triple.bind (Binding.live?_idle slot h_start)
    fun found => ?_
  cases h_hand : start.atHand? slot with
  | none =>
    rintro asked ⟨rfl, h_asked⟩
    have h_query : Triple ⟨Browser.driver, page⟩ start.Idle (do
          let resolved ← binding.query (some slot)
          Action.remember slot (.elements resolved)
          return resolved)
        (fun resolved run => start.Serves page slot (.elements resolved) run) fun _ => start.Idle :=
      Triple.bind (Binding.query_asked _ _) fun resolved asked h_asked =>
        .found h_hand (h_asked.finds h_slot)
    exact h_query asked h_asked
  | some value =>
    rintro asked ⟨rfl, h_asked⟩
    cases value with
    | elements resolved => exact .kept h_hand h_asked
    | table => exact (h_apart slot h_slot (h_start.mayStand h_hand)).elim

theorem run_cachedTable? (slot : String) (run : Run Browser) :
    cachedTable? slot ⟨Browser.driver, page⟩ run
      = (.ok ((run.atHand? slot).bind Cached.table?), run) := by
  rw [cachedTable?, run_bind_ok (run_cached? slot run), Run.atHand?_bind_table?]
  rcases run.memory.cache.find? slot with _ | ⟨_ | _⟩ <;> rfl

/-- A table is loaded where none is at hand; whatever is at hand for a table slot is a table. -/
theorem rememberedTable_serves {load : Action Browser Table}
    (h_load : Yields ⟨Browser.driver, page⟩ start.Still load
      fun _ => (page.tables.find? slot).isSome = true)
    (h_start : start.Orderly page) (h_apart : page.Apart) :
    Triple ⟨Browser.driver, page⟩ start.Idle (rememberedTable slot load)
      (fun table run => start.Serves page slot (.table table) run) fun _ => start.Still := by
  have h_opened : Triple ⟨Browser.driver, page⟩ start.Idle checkOpened
      (fun _ => start.Idle) fun _ => start.Still :=
    Triple.weaken checkOpened_idle (fun _ h_run => h_run) (fun _ _ h_run => h_run)
      fun _ _ h_run => h_run.toStill
  refine Triple.bind h_opened fun _ run h_idle => ?_
  have h_cached : cachedTable? slot ⟨Browser.driver, page⟩ run
      = (.ok ((start.atHand? slot).bind Cached.table?), run) := by
    rw [← h_idle.toStill.atHand?_eq h_start]
    exact run_cachedTable? slot run
  rw [run_bind_ok h_cached]
  have h_found : ∀ {post : Table → Run Browser → Prop},
      (∀ found asked, start.Still asked → (page.tables.find? slot).isSome = true →
        post found (asked.remembering slot (.table found))) →
      Triple ⟨Browser.driver, page⟩ start.Still (do
          let found ← load
          Action.remember slot (.table found)
          return found)
        post fun _ => start.Still :=
    fun h_post => Triple.bind h_load fun found asked h_end => h_post found asked h_end.1 h_end.2
  cases h_hand : start.atHand? slot with
  | none =>
    exact h_found (fun found asked h_still h_slot =>
      .found h_hand ⟨h_still, h_slot, rfl, fun _ h_eq => nomatch h_eq⟩) run h_idle.toStill
  | some value =>
    cases value with
    | table found => exact .kept h_hand h_idle
    | elements resolved =>
      exact h_found (fun found asked h_still h_slot =>
        (h_apart slot (h_start.mayStand h_hand).1 h_slot).elim) run h_idle.toStill

theorem table_serves (slot : String) (h_start : start.Orderly page) (h_apart : page.Apart) :
    Triple ⟨Browser.driver, page⟩ start.Idle (table slot)
      (fun table run => start.Serves page slot (.table table) run) fun _ => start.Still := by
  refine rememberedTable_serves ?_ h_start h_apart
  refine (declared_yields _ _ slot).bind fun spec h_spec => Keeps.bind_yields .read fun _ => ?_
  -- the calls that load a table only look
  have h_load : ∀ xpath, Keeps ⟨Browser.driver, page⟩ start.Still (Table.load slot spec xpath) :=
    fun xpath => (Run.still_steady page start).load slot spec xpath
  exact (Yields.of_keeps (h_load _)).weaken fun _ _ => Option.isSome_of_eq_some h_spec

end Page

-- ============================================================================
-- What is at hand afterwards
-- ============================================================================

namespace Run.Serves

variable {value : Cached}

theorem orderly (h : start.Serves page slot value run) (h_start : start.Orderly page) :
    run.Orderly page := by
  cases h with
  | kept _ h_idle => exact h_idle.toStill.orderly h_start
  | found _ h_found => exact (h_found.still.orderly h_start).remembering h_found.mayStand

theorem atHand?_self (h : start.Serves page slot value run) (h_start : start.Orderly page) :
    run.atHand? slot = some value := by
  cases h with
  | kept h_hand h_idle => rw [h_idle.toStill.atHand?_eq h_start, h_hand]
  | found _ h_found => exact atHand?_remembering_self _ h_found.isCurrent

theorem atHand?_of_ne (h : start.Serves page slot value run) (h_start : start.Orderly page)
    {other : String} (h_ne : slot ≠ other) : run.atHand? other = start.atHand? other := by
  cases h with
  | kept _ h_idle => exact h_idle.toStill.atHand?_eq h_start other
  | found _ h_found =>
    rw [atHand?_remembering_of_ne _ h_ne, h_found.still.atHand?_eq h_start]

/-- The handles of an element slot are at least one. -/
theorem filled {resolved : Resolved} (h : start.Serves page slot (.elements resolved) run) :
    resolved.Filled := by
  cases h with
  | kept h_hand =>
    obtain ⟨-, h_current⟩ := Option.filter_eq_some_iff.mp h_hand
    exact Cached.filled_of_isCurrent h_current
  | found _ h_found => exact Cached.filled_of_isCurrent h_found.isCurrent

theorem rendering (h : start.Serves page slot value run) :
    run.world.rendering = start.world.rendering := by
  cases h with
  | kept _ h_idle => exact h_idle.rendering
  | found _ h_found => exact h_found.still.rendering

end Run.Serves

end PageObjects
