/-
  PageObjects.Proofs.Action.Steady

  Invariants that do not care what the browser answers. An operation on a page is made
  of few kinds of steps: calls, pauses, new handles, new references of handles that
  went stale, and writes to the memory. A `Passive` invariant is kept by calls that only
  look and by pauses, a `Steady` one by new handles as well. The rest is asked for where
  it comes up: `Link.Free` says that a handle may be found again, and a call that acts on
  an element or a write to the memory is a hypothesis of its own.

    * `Steady.request`: a call with all its recovery, by recursion on the chain of
      elements.
    * `Steady.query`, `Steady.load`: lookups, which make handles and write no memory.
    * `Steady.resolveBinding`, `Steady.rememberedTable`: lookups that remember what they
      find under one key, which has to be a `SlotFree` one for handles and a `KeyFree` one for
      tables.
-/

import PageObjects.Page.Storage
import PageObjects.Page.Table
import PageObjects.Proofs.Action.Opening
import PageObjects.Proofs.Action.Yield
import PageObjects.Proofs.Recovery.Placement

namespace PageObjects

open PageObjects.Action

/-- The calls by which the browser leaves the page or the window that it shows. -/
def Call.isDeparture : Call → Bool
  | .session (.navigate _) | .session (.switchToWindow _) | .session .closeWindow => true
  | _ => false

variable {W α : Type} {context : Context W} {inv : Run W → Prop}

/-- The invariant is kept by calls that leave no page and act on no element, and by pauses. -/
structure Passive (context : Context W) (inv : Run W → Prop) : Prop where
  exchange : ∀ (call : Call) run, call.isDeparture = false → call.isHarmless = true → inv run →
    inv (run.exchange context.driver call).2
  pause : ∀ ms (run : Run W), inv run → inv ((Run.clock context.driver).pause ms run)

/-- The invariant is kept by new handles as well, and it allows these to get other references later
    on. -/
structure Steady (context : Context W) (inv : Run W → Prop) : Prop
    extends Passive context inv where
  newHandle : ∀ run : Run W, inv run →
    (∀ reference, inv { run with
      nextId := run.nextId + 1, references := run.references.put run.nextId reference })
    ∧ ∀ reference later, inv later →
      inv { later with references := later.references.put run.nextId reference }

/-- The invariant is kept when a handle is found again: it gets a new reference, and it takes the
    place of a slot if it memoizes itself. -/
structure Link.Free (inv : Run W → Prop) (link : Link) : Prop where
  reference : ∀ reference run, inv run →
    inv { run with references := run.references.put link.id reference }
  memoize : link.memoizes = true → ∀ slot handle run, inv run →
    inv { run with memory :=
      { run.memory with cache := run.memory.cache.put slot (.elements (.one handle)) } }

/-- The invariant is kept when a handle, or an element around it, is found again. -/
def Handle.Free (inv : Run W → Prop) (handle : Handle) : Prop :=
  ∀ link ∈ handle.chain, link.Free inv

/-- The invariant is kept whatever is remembered under a key. -/
def KeyFree (inv : Run W → Prop) (key : String) : Prop :=
  ∀ value run, inv run →
    inv { run with memory := { run.memory with cache := run.memory.cache.put key value } }

/-- The invariant is kept whichever handles are remembered for a slot. -/
def SlotFree (inv : Run W → Prop) (slot : String) : Prop :=
  ∀ resolved run, inv run → inv { run with memory :=
    { run.memory with cache := run.memory.cache.put slot (.elements resolved) } }

theorem KeyFree.slotFree {slot : String} (h : KeyFree inv slot) : SlotFree inv slot :=
  fun resolved => h (.elements resolved)

theorem Page.run_declared {kind : String} {slots : Page → Keyed String α} {slot : String}
    {value : α} (h : (slots context.page).find? slot = some value) (run : Run W) :
    (declared kind slots slot : Action W α) context run = (.ok value, run) := by
  rw [declared, run_bind_ok (run_read run), h]
  rfl

theorem Page.run_declared_none {kind : String} {slots : Page → Keyed String α} {slot : String}
    (h : (slots context.page).find? slot = none) (run : Run W) :
    (declared kind slots slot : Action W α) context run
      = (.error (context.page.noSlot kind slot), run) := by
  rw [declared, run_bind_ok (run_read run), h]
  rfl

/-- What a page gives for a slot is what is declared for it. -/
theorem Page.declared_yields (kind : String) (slots : Page → Keyed String α) (slot : String) :
    Yields context inv (Page.declared kind slots slot) fun value =>
      (slots context.page).find? slot = some value := by
  refine Yields.read.bind fun _ h_context => ?_
  subst h_context
  dsimp only
  split
  · exact .pure ‹_›
  · exact .throw _

namespace Passive

-- ============================================================================
-- Calls and waits
-- ============================================================================

theorem ask (h : Passive context inv) {call : Call} (h_call : call.isDeparture = false)
    (h_harmless : call.isHarmless = true) : Keeps context inv (ask call) :=
  .ask fun run h_run => h.exchange call run h_call h_harmless h_run

theorem sessionCall (h : Passive context inv) {call : SessionCall} (name operation : String)
    (h_call : (Call.session call).isDeparture = false) :
    Keeps context inv (sessionCall call name operation) :=
  .sessionCall name operation fun run h_run => h.exchange _ run h_call rfl h_run

theorem pageCall (h : Passive context inv) {call : SessionCall} (operation : String)
    (h_call : (Call.session call).isDeparture = false) :
    Keeps context inv (pageCall call operation) :=
  .pageCall operation fun run h_run => h.exchange _ run h_call rfl h_run

theorem checkOpened (h : Passive context inv) : Keeps context inv Page.checkOpened :=
  Page.checkOpened_keeps fun run h_run => h.exchange _ run rfl rfl h_run

theorem undisturbed (h : Passive context inv) : Page.Undisturbed context inv where
  script run h_run := h.exchange _ run rfl rfl h_run
  find _ run h_run := h.exchange _ run rfl rfl h_run
  isDisplayed _ run h_run := h.exchange _ run rfl rfl h_run
  pause ms run h_run := h.pause ms run h_run

theorem waitAsSet (h : Passive context inv) (waitedFor : String) {predicate : Action W Bool}
    (h_predicate : Keeps context inv predicate) :
    Keeps context inv (waitAsSet waitedFor predicate) :=
  .waitAsSet h_predicate h.pause

theorem isStale (h : Passive context inv) (handle : Handle) : Keeps context inv handle.isStale := by
  refine .bind (.bind .get fun _ => .pure _) fun _ => .bind .read fun _ => ?_
  split
  · refine .bind (h.ask rfl rfl) fun _ => ?_
    split <;> exact .pure _
  · refine .bind (h.ask rfl rfl) fun _ => ?_
    split <;> exact .pure _

theorem live? (h : Passive context inv) (slot : String) :
    Keeps context inv (Binding.live? slot) := by
  refine .bind (.bind .get fun _ => .pure _) fun found => ?_
  split
  · split
    · exact .pure none
    · exact .bind (h.isStale _) fun _ => .pure _
  · exact .pure none

end Passive

/-- A call with recovery keeps what the call by itself keeps and what finding the handle again
    keeps. -/
theorem Handle.recovering_keeps_of {handle : Handle} {refind : Action W Reference}
    (operation : String) {call : ElementCall}
    (h_call : ∀ reference, Keeps context inv (ask (.element reference call)))
    (h_reload : Keeps context inv (handle.reload refind)) :
    Keeps context inv (handle.recovering refind operation call) := by
  have h_reference : Keeps context inv handle.own.reference := .bind .get fun _ => .pure _
  refine .bind h_reference fun _ => .bind (h_call _) fun first => ?_
  split
  · exact .bind h_reload fun _ => .bind h_reference fun _ => .bind (h_call _) fun again =>
      .answered _ _ again
  · exact .answered _ _ _

namespace Handle

/-- A new handle is as it was asked for. -/
theorem register_ok (context : Context W) (locator : Locator) (slot : Option String)
    (memoizes : Bool) (position : Option Nat) (ancestors : List Link) (reference : Reference)
    (run : Run W) : ∃ handle run',
      register locator slot memoizes position ancestors reference context run = (.ok handle, run')
        ∧ handle.own.locator = locator ∧ handle.own.slot = slot ∧ handle.own.memoizes = memoizes
        ∧ handle.own.position = position ∧ handle.ancestors = ancestors :=
  ⟨_, _, rfl, rfl, rfl, rfl, rfl, rfl⟩

/-- There is one new handle for each reference. -/
theorem registerAll_ok (context : Context W) (locator : Locator) (slot : Option String)
    (ancestors : List Link) (position : Nat) (references : List Reference) (run : Run W) :
    ∃ handles run',
      registerAll locator slot ancestors position references context run = (.ok handles, run')
        ∧ handles.length = references.length
        ∧ ∀ (index : Nat) (handle : Handle), handles[index]? = some handle →
          handle.own.locator = locator ∧ handle.own.slot = slot ∧ handle.own.memoizes = false
            ∧ handle.own.position = some (position + index) ∧ handle.ancestors = ancestors := by
  induction references generalizing position run with
  | nil => exact ⟨[], run, rfl, rfl, fun _ _ h_index => nomatch h_index⟩
  | cons reference rest ih =>
    obtain ⟨first, found, h_first, h_own⟩ :=
      register_ok context locator slot false (some position) ancestors reference run
    obtain ⟨handles, run', h_rest, h_length, h_all⟩ := ih (position + 1) found
    refine ⟨first :: handles, run', ?_, ?_, fun index handle h_index => ?_⟩
    · rw [registerAll, run_bind_ok h_first, run_bind_ok h_rest]
      rfl
    · rw [List.length_cons, List.length_cons, h_length]
    · cases index with
      | zero => exact Option.some.inj h_index ▸ h_own
      | succ index =>
        rw [Nat.add_comm index, ← Nat.add_assoc]
        exact h_all index handle h_index

end Handle

namespace Steady

-- ============================================================================
-- Calls with recovery
-- ============================================================================

theorem reference (link : Link) : Keeps context inv link.reference :=
  .bind .get fun _ => .pure _

theorem requirePage (link : Link) : Keeps context inv link.requirePage := by
  refine .bind .get fun run => ?_
  split
  · exact .throw _
  · exact .pure ()

theorem refind (link : Link) {first : Action W Reference} {all : Action W (List Reference)}
    (h_first : Keeps context inv first) (h_all : Keeps context inv all) :
    Keeps context inv (link.refind first all) := by
  rw [Link.refind]
  split
  · exact h_first
  · exact .bind h_all fun _ => .lift _

theorem memoize {handle : Handle} (h_free : handle.own.Free inv) :
    Keeps context inv handle.memoize := by
  rw [Handle.memoize]
  split
  · rename_i slot _
    split
    · rename_i h_memoizes
      exact .modifyMemory fun run h_run => h_free.memoize h_memoizes slot handle run h_run
    · exact .pure ()
  · exact .pure ()

theorem recovering {handle : Handle} {refind : Action W Reference} (operation : String)
    {call : ElementCall}
    (h_call : ∀ reference, Keeps context inv (Action.ask (.element reference call)))
    (h_free : handle.own.Free inv) (h_refind : Keeps context inv refind) :
    Keeps context inv (handle.recovering refind operation call) :=
  Handle.recovering_keeps_of operation h_call <|
    .bind (requirePage handle.own) fun _ => .bind h_refind fun reference =>
      .bind (.modify (h_free.reference reference)) fun _ => memoize h_free

/-- A call keeps the invariant with all its recovery if it keeps it by itself, whichever of the
    elements around its own have to be found again. -/
theorem request (h : Steady context inv) {own : Link} {ancestors : List Link} (operation : String)
    {call : ElementCall}
    (h_call : ∀ reference, Keeps context inv (Action.ask (.element reference call)))
    (h_free : ∀ link ∈ own :: ancestors, link.Free inv) :
    Keeps context inv (Handle.request own ancestors operation call) := by
  induction ancestors generalizing own operation call with
  | nil =>
    have h_own : own.Free inv := h_free own List.mem_cons_self
    rw [Handle.request]
    apply recovering operation h_call h_own
    exact refind own (h.sessionCall _ _ rfl) (h.sessionCall _ _ rfl)
  | cons parent rest ih =>
    have h_own : own.Free inv := h_free own List.mem_cons_self
    have h_outer : ∀ link ∈ parent :: rest, link.Free inv := by
      intro link h_mem
      exact h_free link (List.mem_cons_of_mem _ h_mem)
    rw [Handle.request]
    apply recovering operation h_call h_own
    -- the query of the handle is a call to the element around it, which acts on nothing
    exact refind own (ih _ (fun _ => h.ask rfl rfl) h_outer) (ih _ (fun _ => h.ask rfl rfl) h_outer)

theorem perform (h : Steady context inv) {handle : Handle} (h_free : handle.Free inv)
    {call : ElementCall}
    (h_call : ∀ reference, Keeps context inv (Action.ask (.element reference call))) :
    Keeps context inv (handle.perform call) :=
  h.request call.operation h_call h_free

-- ============================================================================
-- New handles
-- ============================================================================

theorem register (h : Steady context inv) (locator : Locator) (slot : Option String)
    (memoizes : Bool) (position : Option Nat) (ancestors : List Link) (reference : Reference) :
    Keeps context inv
      (Handle.register locator slot memoizes position ancestors reference) := by
  intro run h_run
  exact (h.newHandle run h_run).1 reference

theorem registerAll (h : Steady context inv) (locator : Locator) (slot : Option String)
    (ancestors : List Link) (position : Nat) (references : List Reference) :
    Keeps context inv (Handle.registerAll locator slot ancestors position references) := by
  induction references generalizing position with
  | nil => exact .pure []
  | cons reference rest ih =>
    exact .bind (h.register locator slot false (some position) ancestors reference) fun _ =>
      .bind (ih (position + 1)) fun _ => .pure _

theorem register_yields (h : Steady context inv) (locator : Locator) (slot : Option String)
    (memoizes : Bool) (position : Option Nat) (ancestors : List Link) (reference : Reference) :
    Yields context inv (Handle.register locator slot memoizes position ancestors reference)
      fun handle => handle.own.locator = locator ∧ handle.own.slot = slot
        ∧ handle.own.memoizes = memoizes ∧ handle.own.position = position
        ∧ handle.ancestors = ancestors :=
  Keeps.and_ok (h.register _ _ _ _ _ _) (Handle.register_ok context _ _ _ _ _ _)

theorem registerAll_yields (h : Steady context inv) (locator : Locator) (slot : Option String)
    (ancestors : List Link) (position : Nat) (references : List Reference) :
    Yields context inv (Handle.registerAll locator slot ancestors position references)
      fun handles => handles.length = references.length
        ∧ ∀ (index : Nat) (handle : Handle), handles[index]? = some handle →
          handle.own.locator = locator ∧ handle.own.slot = slot ∧ handle.own.memoizes = false
            ∧ handle.own.position = some (position + index) ∧ handle.ancestors = ancestors :=
  Keeps.and_ok (h.registerAll _ _ _ _ _) (Handle.registerAll_ok context _ _ _ _ _)

/-- New handles of a list are for the slot of the query, do not memoize themselves and stand below
    the elements of the query. -/
theorem registerAll_inside_yields (h : Steady context inv) (locator : Locator)
    (slot : Option String) (ancestors : List Link) (position : Nat)
    (references : List Reference) :
    Yields context inv (Handle.registerAll locator slot ancestors position references)
      fun handles => ∀ handle ∈ handles, handle.own.slot = slot ∧ handle.own.memoizes = false
        ∧ handle.ancestors = ancestors := by
  refine (h.registerAll_yields locator slot ancestors position references).weaken
    fun handles h_handles handle h_mem => ?_
  obtain ⟨index, h_index⟩ := List.mem_iff_getElem?.mp h_mem
  obtain ⟨-, h_slot, h_memoizes, -, h_ancestors⟩ := h_handles.2 index handle h_index
  exact ⟨h_slot, h_memoizes, h_ancestors⟩

/-- A new handle that does not memoize itself may be found again, if what it was found under may. -/
theorem register_free (h : Steady context inv) (locator : Locator) (slot : Option String)
    (position : Option Nat) {ancestors : List Link} (reference : Reference)
    (h_ancestors : ∀ link ∈ ancestors, link.Free inv) :
    Yields context inv (Handle.register locator slot false position ancestors reference)
      (Handle.Free inv) := by
  intro run h_run
  obtain ⟨h_new, h_later⟩ := h.newHandle run h_run
  refine ⟨h_new reference, List.forall_mem_cons.mpr ⟨⟨h_later, ?_⟩, h_ancestors⟩⟩
  intro h_memoizes
  cases h_memoizes

theorem find (h : Steady context inv) {handle : Handle} (h_free : handle.Free inv)
    (locator : Locator) : Yields context inv (handle.find locator) (Handle.Free inv) :=
  Keeps.bind_yields (h.perform h_free fun _ => h.ask rfl rfl) fun _ =>
    h.register_free _ _ _ _ h_free

theorem findAll (h : Steady context inv) {handle : Handle} (h_free : handle.Free inv)
    (locator : Locator) : Keeps context inv (handle.findAll locator) :=
  .bind (h.perform h_free fun _ => h.ask rfl rfl) fun _ => h.registerAll _ _ _ _ _

theorem innerHtml (h : Steady context inv) {handle : Handle} (h_free : handle.Free inv) :
    Keeps context inv handle.innerHtml :=
  .bind (h.perform h_free fun _ => h.ask rfl rfl) fun _ => .pure _

theorem outerHtml (h : Steady context inv) {handle : Handle} (h_free : handle.Free inv) :
    Keeps context inv handle.outerHtml :=
  .bind (h.perform h_free fun _ => h.ask rfl rfl) fun _ => .pure _

-- ============================================================================
-- Lookups
-- ============================================================================

theorem declared (kind : String) (slots : Page → Keyed String α) (slot : String) :
    Keeps context inv (Page.declared kind slots slot) :=
  (Page.declared_yields kind slots slot).keeps

theorem query (h : Steady context inv) (binding : Binding) (slot : Option String) :
    Keeps context inv (binding.query slot) := by
  rw [Binding.query]
  dsimp only
  split
  · exact .bind (h.sessionCall _ _ rfl) fun _ => .bind (h.register _ _ _ _ _ _) fun _ => .pure _
  · refine .bind (h.sessionCall _ _ rfl) fun references => ?_
    split
    · exact .bind (.throw _) fun _ => .bind (h.registerAll _ _ _ _ _) fun _ => .pure _
    · exact .bind (h.registerAll _ _ _ _ _) fun _ => .pure _

/-- What a lookup finds for a slot is remembered under the slot. -/
theorem resolveBinding (h : Steady context inv) (binding : Binding) {slot : String}
    (h_slot : SlotFree inv slot) : Keeps context inv (binding.resolve slot) := by
  refine .bind h.checkOpened fun _ => .bind (h.live? slot) fun found => ?_
  split
  · exact .pure _
  · refine .bind (h.query binding (some slot)) fun resolved => ?_
    exact .bind (.modifyMemory fun run h_run => h_slot _ run h_run) fun _ => .pure _

/-- A member that is not known is bound under its name. -/
theorem memberBinding (group : ElementGroup) (name : String)
    (h_bind : ∀ binding run, inv run → inv { run with memory :=
      { run.memory with members := run.memory.members.put name binding } }) :
    Keeps context inv (Page.memberBinding group name) := by
  refine .bind .get fun run => ?_
  split
  · exact .pure _
  · exact .bind .read fun _ => .bind (.modifyMemory fun run h_run => h_bind _ run h_run) fun _ =>
      .pure _

/-- A table is loaded through handles that memoize nothing. -/
theorem load (h : Steady context inv) (slot : String) (spec : TableSpec) (rootXPath : String) :
    Keeps context inv (Table.load slot spec rootXPath) := by
  have h_none : ∀ link ∈ ([] : List Link), link.Free inv := fun _ h_mem => nomatch h_mem
  refine .bind (h.sessionCall _ _ rfl) fun reference =>
    (h.register_free _ _ _ reference h_none).bind_keeps fun root h_root => ?_
  refine (h.find h_root _).bind_keeps fun header h_header => ?_
  exact .bind (h.innerHtml h_header) fun markup => .bind (.lift _) fun _ => .pure _

/-- A table that is loaded is remembered under its key. -/
theorem rememberedTable (h : Steady context inv) {key : String} (h_key : KeyFree inv key)
    {load : Action W Table} (h_load : Keeps context inv load) :
    Keeps context inv (Page.rememberedTable key load) := by
  have h_cached : Keeps context inv (Page.cachedTable? key) :=
    .bind (.bind .get fun _ => .pure _) fun _ => .pure _
  refine .bind h.checkOpened fun _ => .bind h_cached fun found => ?_
  split
  · exact .pure _
  · refine .bind h_load fun table => ?_
    exact .bind (.modifyMemory fun run h_run => h_key _ run h_run) fun _ => .pure _

end Steady
end PageObjects
