/-
  PageObjects.Proofs.Memory.Session

  What a page remembers in every session with it. `Reached` is every state of a
  session: the operations come in any order, on handles and tables that were got at
  any time before, and between two of them the browser changes in any way. Nothing is
  said about the driver, so each call may be answered by anything.

    * `PageOperation.yields`, `Operation.yields`: one operation.
    * `Reached.sound`: a session, by induction on its steps.
    * `remembered_in_session`: what is in the memory, in every session.
-/

import PageObjects.Proofs.Memory.Lookup
import PageObjects.Proofs.Recovery.Looking

namespace PageObjects

open PageObjects.Action

-- ============================================================================
-- What is held
-- ============================================================================

namespace Held

/-- Everything that is held may be held. -/
structure Sound (fits : Fits) (held : Held) : Prop where
  handles : AllSound fits held.handles
  tables : ∀ table ∈ held.tables, table.root.Sound fits

/-- What an operation gives: handles of a kind, and tables that may be held. -/
structure Good (fits : Fits) (good : Handle → Prop) (held : Held) : Prop where
  handles : ∀ handle ∈ held.handles, good handle
  tables : ∀ table ∈ held.tables, table.root.Sound fits

variable {fits : Fits} {good : Handle → Prop} {held : Held}

theorem sound_empty : Held.Sound fits {} :=
  ⟨fun _ h_mem => absurd h_mem List.not_mem_nil, fun _ h_mem => absurd h_mem List.not_mem_nil⟩

theorem good_of_eq (h : held = {}) : held.Good fits good :=
  h ▸ ⟨fun _ h_mem => absurd h_mem List.not_mem_nil, fun _ h_mem => absurd h_mem List.not_mem_nil⟩

theorem Handles.toGood (h : held.Handles good) : held.Good fits good := by
  refine ⟨h.handles, fun table h_mem => ?_⟩
  rw [h.tables] at h_mem
  cases h_mem

theorem Good.sound (h : held.Good fits (Handle.Sound fits)) : held.Sound fits :=
  ⟨h.handles, h.tables⟩

theorem Sound.and {got before : Held} (h_got : got.Sound fits) (h_before : before.Sound fits) :
    (got.and before).Sound fits :=
  ⟨List.forall_mem_append.2 ⟨h_got.handles, h_before.handles⟩,
    List.forall_mem_append.2 ⟨h_got.tables, h_before.tables⟩⟩

end Held

variable {W : Type} {context : Context W} {fits : Fits} {good : Handle → Prop}

theorem givesTable_yields {action : Action W Table}
    (h : Yields context (Run.Sound fits) action fun table => table.root.Sound fits) :
    Yields context (Run.Sound fits) (givesTable action) (Held.Good fits good) :=
  h.map fun _ h_table =>
    ⟨fun _ h_mem => absurd h_mem List.not_mem_nil, List.forall_mem_singleton.2 h_table⟩

-- ============================================================================
-- One operation
-- ============================================================================

/-- Whether the bindings that an operation resolves fit the names that it remembers them under. -/
def PageOperation.RespectsNames (fits : Fits) (page : Page) : PageOperation → Prop
  | resolve slot | element slot | elementList slot =>
    ∀ binding, page.elements.find? slot = some binding → fits slot binding
  | resolveBinding binding slot => fits slot binding
  | reload resolved => ∀ first slot, resolved.head = .ok first → first.own.slot = some slot →
    fits slot (match resolved with
      | .one _ => .one first.own.locator
      | .many _ => .many first.own.locator)
  | groupBinding slot indices | groupMember slot indices =>
    ∀ group, page.groups.find? slot = some group → Page.MemberFits fits page group indices
  | _ => True

/-- An operation on a page. -/
theorem PageOperation.yields (h_good : Sourced fits good) {operation : PageOperation}
    (h : operation.RespectsNames fits context.page) :
    Yields context (Run.Sound fits) operation.action (Held.Good fits good) := by
  have h_handles : ∀ {action : Action W Held},
      Yields context (Run.Sound fits) action (Held.Handles good) →
      Yields context (Run.Sound fits) action (Held.Good fits good) :=
    fun h_action => h_action.weaken fun _ => Held.Handles.toGood
  cases operation with
  | resolve slot =>
    exact h_handles <| givesResolved_yields <|
      (Page.resolve_yields h).weaken fun _ => h_good.remembered
  | element slot =>
    exact h_handles <| givesHandle_yields ((Page.resolve_yields h).bind fun _ h_resolved =>
      Page.head_yields (h_good.remembered h_resolved))
  | elementList slot =>
    exact h_handles <| givesHandles_yields <|
      (Page.resolve_yields h).map fun _ => h_good.remembered
  | resolveBinding binding slot =>
    exact h_handles <| givesResolved_yields <|
      (Binding.resolve_yields h).weaken fun _ => h_good.remembered
  | reload resolved => exact h_handles <| givesResolved_yields (Page.reload_yields h_good h)
  | find locator => exact h_handles <| givesHandle_yields (Page.find_yields h_good locator)
  | findAll locator => exact h_handles <| givesHandles_yields (Page.findAll_yields h_good locator)
  | findNamed name => exact h_handles <| givesHandle_yields (Page.findNamed_yields h_good name)
  | groupBinding slot indices =>
    exact (givesNothing_yields ((Page.declared_yields _ _ slot).bind_keeps fun group h_group =>
      Page.groupBinding_keeps (h group h_group))).weaken fun _ => Held.good_of_eq
  | groupMember slot indices =>
    exact h_handles <| givesResolved_yields <|
      (Page.declared_yields _ _ slot).bind fun group h_group =>
        (Page.groupMember_yields (h group h_group)).weaken fun _ ⟨_, _, h_resolved⟩ =>
          h_good.remembered h_resolved
  | groupRelative slot indices =>
    exact h_handles <| givesHandle_yields ((Page.declared_yields _ _ slot).bind fun group _ =>
      Page.groupRelative_yields h_good group indices)
  | table slot =>
    exact givesTable_yields ((Page.table_yields slot).weaken fun _ => Cached.StoredAt.root_sound)
  | nestedTable slot index =>
    exact givesTable_yields
      ((Page.nestedTable_yields slot index).weaken fun _ => Cached.StoredAt.root_sound)
  | _ => exact (Run.sound_lasting.pageOperation rfl).weaken fun _ => Held.good_of_eq

namespace Operation

/-- Whether the bindings that an operation resolves fit the names that it remembers them under. -/
def RespectsNames (fits : Fits) (page : Page) : Operation → Prop
  | onPage operation => operation.RespectsNames fits page
  | _ => True

/-- Where every binding fits every name, each operation respects the names. -/
theorem respectsNames_true (operation : Operation) (page : Page) :
    operation.RespectsNames (fun _ _ => True) page := by
  cases operation with
  | onPage operation =>
    cases operation <;> simp [RespectsNames, PageOperation.RespectsNames, Page.MemberFits]
  | onHandle handle operation => trivial
  | onTable table operation => trivial
  | waitOneOf handles timeoutMs => trivial

/-- Any operation, on handles of a kind. -/
theorem yields (h_good : Sourced fits good) {operation : Operation} {held : Held}
    (h_handles : ∀ handle ∈ held.handles, good handle)
    (h_table : ∀ table on, operation = .onTable table on → good table.root)
    (h_on : operation.IsOn held) (h : operation.RespectsNames fits context.page) :
    Yields context (Run.Sound fits) operation.action (Held.Good fits good) := by
  cases operation with
  | onPage operation => exact PageOperation.yields h_good h
  | onHandle handle operation =>
    exact (h_good.workable.handleOperation (h_handles handle h_on) operation).weaken
      fun _ => Held.Handles.toGood
  | onTable table operation =>
    exact (h_good.workable.tableOperation (h_table table operation rfl) operation).weaken
      fun _ => Held.Handles.toGood
  | waitOneOf handles timeoutMs =>
    have h_all : ∀ handle ∈ handles, good handle := fun handle h_mem =>
      h_handles handle (h_on handle h_mem)
    exact (givesHandle_yields (h_good.workable.waitOneOf h_all timeoutMs)).weaken
      fun _ => Held.Handles.toGood

end Operation

-- ============================================================================
-- Sessions
-- ============================================================================

/-- The states of a session with a page in which the test does operations of an allowed kind. -/
inductive Reached (driver : Driver W) (page : Page) (allowed : Operation → Prop) :
    Held → Run W → Prop
  | start {run : Run W} : run.memory = {} → Reached driver page allowed {} run
  | change {held : Held} {run : Run W} (world : W) : Reached driver page allowed held run →
      Reached driver page allowed held { run with world }
  | dropPage {held : Held} {run : Run W} : Reached driver page allowed held run →
      Reached driver page allowed held { run with pageDropped := true }
  | operate {held : Held} {run : Run W} (operation : Operation) :
      Reached driver page allowed held run → operation.IsOn held → allowed operation →
      Reached driver page allowed ((gotten (operation.action ⟨driver, page⟩ run)).and held)
        (operation.action ⟨driver, page⟩ run).2

variable {driver : Driver W} {page : Page} {allowed : Operation → Prop} {held : Held} {run : Run W}

/-- Every session keeps the memory sound, and all that the test holds. -/
theorem Reached.sound
    (h_allowed : ∀ operation, allowed operation → operation.RespectsNames fits page)
    (h : Reached driver page allowed held run) : run.Sound fits ∧ held.Sound fits := by
  induction h with
  | @start run h_memory =>
    refine ⟨?_, Held.sound_empty⟩
    rw [Run.Sound, h_memory]
    exact Memory.sound_empty
  | change world _ ih => exact ih
  | dropPage _ ih => exact ih
  | @operate held run operation _ h_on h_operation ih =>
    obtain ⟨h_run, h_held⟩ := ih
    have h_table : ∀ table on, operation = .onTable table on → table.root.Sound fits := by
      rintro table on rfl
      exact h_held.tables table h_on
    have h_yields : Yields ⟨driver, page⟩ (Run.Sound fits) operation.action
        (Held.Good fits (Handle.Sound fits)) :=
      Operation.yields Handle.sound_sourced h_held.handles h_table h_on
        (h_allowed operation h_operation)
    have h_end := h_yields run h_run
    rcases h_action : operation.action ⟨driver, page⟩ run with ⟨e | got, run'⟩
    · rw [h_action] at h_end
      exact ⟨h_end, Held.sound_empty.and h_held⟩
    · rw [h_action] at h_end
      exact ⟨h_end.1, h_end.2.sound.and h_held⟩

/-- The handles of a remembered value; of a table its root. -/
def Cached.handles : Cached → List Handle
  | .elements resolved => resolved.toList
  | .table found => [found.root]

theorem Cached.StoredAt.slot_of_mem {key : String} {value : Cached} (h : value.StoredAt key) :
    ∀ handle ∈ value.handles, handle.own.slot = some key := by
  cases h with
  | table _ h_slot =>
    intro handle h_mem
    exact List.mem_singleton.1 h_mem ▸ h_slot
  | @elements resolved h_resolved =>
    intro handle h_mem
    cases resolved with
    | one single =>
      cases h_resolved with
      | one h_slot => exact List.mem_singleton.1 h_mem ▸ h_slot
    | many handles =>
      obtain ⟨_, h_all⟩ := h_resolved.of_mem_many
      exact (h_all handle h_mem).2.1

/-- Whatever a test does and whatever the driver answers: every remembered value looks as it must
    under its key, no handle without a slot is remembered, and no binding and no slot resolves to
    an empty list. -/
theorem remembered_in_session (h : Reached driver page (fun _ => True) held run) :
    (∀ key value, run.memory.cache.find? key = some value →
      value.StoredAt key ∧ ∀ handle ∈ value.handles, handle.own.slot ≠ none) ∧
    (∀ binding slot resolved, (Binding.resolve binding slot ⟨driver, page⟩ run).1 = .ok resolved →
      resolved.toList ≠ []) ∧
    ∀ slot resolved, (Page.resolve slot ⟨driver, page⟩ run).1 = .ok resolved →
      resolved.toList ≠ [] := by
  have h_sound : run.Sound fun _ _ => True :=
    (h.sound fun operation _ => operation.respectsNames_true page).1
  refine ⟨fun key value h_find => ?_, fun binding slot resolved h_ok => ?_,
    fun slot resolved h_ok => ?_⟩
  · have h_stored := (h_sound.cache key value h_find).storedAt
    refine ⟨h_stored, fun handle h_mem h_none => ?_⟩
    exact Option.some_ne_none key ((h_stored.slot_of_mem handle h_mem).symm.trans h_none)
  · exact ((Binding.resolve_yields trivial).of_ok h_sound h_ok).stored.toList_ne_nil
  · exact ((Page.resolve_yields fun _ _ => trivial).of_ok h_sound h_ok).stored.toList_ne_nil

/-- A page with a slot for a row. -/
def Page.withRow : Page :=
  { Page.bare with elements := [("row", .one (.css ".row"))] }

/-- A handle that was got before the page was left puts itself back when it is found again. -/
theorem remembered_in_session_row : ∃ held run,
    Reached Browser.driver Page.withRow (fun _ => True) held run ∧
      ∃ value, run.memory.cache.find? "row" = some value ∧ value.StoredAt "row" := by
  let row : Handle := ⟨⟨0, .css ".row", some "row", true, none⟩, []⟩
  have h_start : Reached Browser.driver Page.withRow (fun _ => True) {}
      { world := Browser.twoRows } := .start rfl
  have h_row := (h_start.operate (.onPage (.visit none [])) trivial trivial).operate
    (.onPage (.element "row")) trivial trivial
  have h_left := h_row.operate (.onPage (.redirect "http://shop.local/rows")) trivial trivial
  obtain ⟨held, run, h_found, h_some⟩ : ∃ held run,
      Reached Browser.driver Page.withRow (fun _ => True) held run ∧
        (run.memory.cache.find? "row").isSome = true := by
    refine ⟨_, _, h_left.operate (.onHandle row (.call .text)) ?_ trivial, ?_⟩
    · show row ∈ Held.handles _
      decide +kernel
    · decide +kernel
  obtain ⟨value, h_value⟩ := Option.isSome_iff_exists.1 h_some
  exact ⟨held, run, h_found, value, h_value,
    ((remembered_in_session h_found).1 "row" value h_value).1⟩

end PageObjects
