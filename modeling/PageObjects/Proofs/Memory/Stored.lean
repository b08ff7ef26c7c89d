/-
  PageObjects.Proofs.Memory.Stored

  What a page remembers, and that recovery keeps it so. `Cached.StoredAt` says how a
  value that is remembered under a key looks; `Memory.Sound` is that for the whole
  memory, together with a relation `fits` between names and the bindings that may
  answer to them. A test may hold handles that were found long ago, and any of them
  may put itself into the memory when it is found again. So the invariant needs a
  second half, on handles: `Handle.Sound` says that a handle which memoizes itself
  would be stored soundly, and the same of all elements that it was found under.

    * `Memory.Sound.remember`, `Memory.Sound.forget`: writes.
    * `Run.sound_steady`, `Run.sound_lasting`: what does not write to the memory.
    * `Handle.request_keeps`: a call with all its recovery, by recursion on the chain of
      elements.
-/

import PageObjects.Proofs.Action.Lasting

namespace PageObjects

open PageObjects.Action

-- ============================================================================
-- Remembered values
-- ============================================================================

/-- How handles that are remembered under a key look: a single one has the key as its slot, no
    element around it and no position, and memoizes itself; those of a list have one locator, the
    key as their slot, no element around them and their positions in order, and do not memoize
    themselves. -/
inductive Resolved.StoredAt (key : String) : Resolved → Prop
  | one {handle : Handle} : handle.own.slot = some key → handle.own.memoizes = true →
      handle.own.position = none → handle.ancestors = [] → StoredAt key (.one handle)
  | many {handles : List Handle} (locator : Locator) : handles ≠ [] →
      (∀ (index : Nat) (handle : Handle), handles[index]? = some handle →
        handle.own.locator = locator ∧ handle.own.slot = some key ∧ handle.own.memoizes = false ∧
          handle.own.position = some index ∧ handle.ancestors = []) →
      StoredAt key (.many handles)

/-- How a value that is remembered under a key looks. -/
inductive Cached.StoredAt (key : String) : Cached → Prop
  | elements {resolved : Resolved} : resolved.StoredAt key → StoredAt key (.elements resolved)
  | table {table : Table} : table.slot = key → table.root.own.slot = some key →
      table.root.own.memoizes = false → table.root.ancestors = [] → StoredAt key (.table table)

/-- The bindings that resolved handles answer to. -/
def Resolved.bindings : Resolved → List Binding
  | .one handle => [.one handle.own.locator]
  | .many handles => handles.map fun handle => .many handle.own.locator

/-- The bindings that may answer to a name. -/
abbrev Fits := String → Binding → Prop

/-- Resolved handles that may be remembered under a key. -/
structure Resolved.SoundAt (fits : Fits) (key : String) (resolved : Resolved) : Prop where
  stored : resolved.StoredAt key
  fitting : ∀ binding ∈ resolved.bindings, fits key binding

/-- A value that may be remembered under a key. -/
inductive Cached.SoundAt (fits : Fits) (key : String) : Cached → Prop
  | elements {resolved : Resolved} :
      resolved.SoundAt fits key → SoundAt fits key (.elements resolved)
  | table {table : Table} : Cached.StoredAt key (.table table) → SoundAt fits key (.table table)

theorem Cached.SoundAt.storedAt {fits : Fits} {key : String} {value : Cached}
    (h : value.SoundAt fits key) : value.StoredAt key := by
  cases h with
  | elements h => exact .elements h.stored
  | table h => exact h

/-- A memory all of whose values look as they must, under names that they fit. -/
structure Memory.Sound (fits : Fits) (memory : Memory) : Prop where
  cache : ∀ key value, memory.cache.find? key = some value → value.SoundAt fits key
  members : ∀ name binding, memory.members.find? name = some binding → fits name binding

variable {fits : Fits} {memory : Memory}

theorem Memory.sound_empty : Memory.Sound fits {} :=
  ⟨fun _ _ h => (nomatch h), fun _ _ h => (nomatch h)⟩

theorem Memory.Sound.remember (h : memory.Sound fits) {key : String} {value : Cached}
    (h_value : value.SoundAt fits key) :
    Memory.Sound fits { memory with cache := memory.cache.put key value } := by
  refine ⟨fun other value' h_find => ?_, h.members⟩
  by_cases h_key : key = other
  · subst h_key
    rw [Keyed.find?_put_self] at h_find
    exact Option.some.inj h_find ▸ h_value
  · rw [Keyed.find?_put_of_ne h_key] at h_find
    exact h.cache other value' h_find

theorem Memory.Sound.forget (h : memory.Sound fits) (key : String) :
    Memory.Sound fits { memory with cache := memory.cache.drop key } := by
  refine ⟨fun other value h_find => ?_, h.members⟩
  by_cases h_key : key = other
  · subst h_key
    rw [Keyed.find?_drop_self] at h_find
    exact nomatch h_find
  · rw [Keyed.find?_drop_of_ne h_key] at h_find
    exact h.cache other value h_find

theorem Memory.Sound.bindMember (h : memory.Sound fits) {name : String} {binding : Binding}
    (h_fits : fits name binding) :
    Memory.Sound fits { memory with members := memory.members.put name binding } := by
  refine ⟨h.cache, fun other binding' h_find => ?_⟩
  by_cases h_name : name = other
  · subst h_name
    rw [Keyed.find?_put_self] at h_find
    exact Option.some.inj h_find ▸ h_fits
  · rw [Keyed.find?_put_of_ne h_name] at h_find
    exact h.members other binding' h_find

-- ============================================================================
-- Handles
-- ============================================================================

/-- A link that memoizes itself is one that may be remembered for its slot. -/
def Link.Sound (fits : Fits) (own : Link) (ancestors : List Link) : Prop :=
  own.memoizes = true →
    ∃ slot, own.slot = some slot ∧ (Resolved.one ⟨own, ancestors⟩).SoundAt fits slot

/-- A handle, and all that it was found under, may put itself into the memory. -/
def Link.ChainSound (fits : Fits) : (own : Link) → (ancestors : List Link) → Prop
  | own, [] => own.Sound fits []
  | own, parent :: rest => own.Sound fits (parent :: rest) ∧ parent.ChainSound fits rest

/-- A handle that may be held by a test. -/
def Handle.Sound (fits : Fits) (handle : Handle) : Prop :=
  handle.own.ChainSound fits handle.ancestors

/-- A handle that does not memoize itself is as sound as what it was found under. -/
theorem Link.chainSound_of_not_memoizes {own : Link} {ancestors : List Link}
    (h : own.memoizes = false)
    (h_ancestors : ∀ parent rest, ancestors = parent :: rest → parent.ChainSound fits rest) :
    own.ChainSound fits ancestors := by
  have h_own : own.Sound fits ancestors := fun h_memoizes => by
    rw [h] at h_memoizes
    exact nomatch h_memoizes
  cases ancestors with
  | nil => exact h_own
  | cons parent rest => exact ⟨h_own, h_ancestors parent rest rfl⟩

/-- A handle that does not memoize itself and was found under no element may be held. -/
theorem Handle.sound_of_outermost {handle : Handle} (h_memoizes : handle.own.memoizes = false)
    (h_ancestors : handle.ancestors = []) : handle.Sound fits := by
  refine Link.chainSound_of_not_memoizes h_memoizes fun parent rest h_chain => ?_
  rw [h_ancestors] at h_chain
  exact nomatch h_chain

/-- The handles of a remembered list, each for itself. -/
theorem Resolved.StoredAt.of_mem_many {key : String} {handles : List Handle}
    (h : Resolved.StoredAt key (.many handles)) :
    ∃ locator, ∀ handle ∈ handles, handle.own.locator = locator ∧ handle.own.slot = some key ∧
      handle.own.memoizes = false ∧ handle.ancestors = [] := by
  cases h with
  | many locator _ h_all =>
    refine ⟨locator, fun handle h_mem => ?_⟩
    obtain ⟨index, h_index⟩ := List.mem_iff_getElem?.1 h_mem
    obtain ⟨h_locator, h_slot, h_memoizes, -, h_ancestors⟩ := h_all index handle h_index
    exact ⟨h_locator, h_slot, h_memoizes, h_ancestors⟩

/-- What is remembered for a slot may be held. -/
theorem Resolved.SoundAt.sound {key : String} {resolved : Resolved}
    (h : resolved.SoundAt fits key) : ∀ handle ∈ resolved.toList, handle.Sound fits := by
  obtain ⟨h_stored, h_fitting⟩ := h
  cases resolved with
  | one single =>
    cases h_stored with
    | one h_slot h_memoizes h_position h_ancestors =>
      intro handle h_mem
      obtain rfl := List.mem_singleton.1 h_mem
      obtain ⟨own, ancestors⟩ := handle
      obtain rfl : ancestors = [] := h_ancestors
      exact fun _ => ⟨key, h_slot, .one h_slot h_memoizes h_position rfl, h_fitting⟩
  | many handles =>
    intro handle h_mem
    obtain ⟨_, h_all⟩ := h_stored.of_mem_many
    obtain ⟨-, -, h_memoizes, h_ancestors⟩ := h_all handle h_mem
    exact Handle.sound_of_outermost h_memoizes h_ancestors

theorem Resolved.StoredAt.toList_ne_nil {key : String} {resolved : Resolved}
    (h : resolved.StoredAt key) : resolved.toList ≠ [] := by
  cases h with
  | one => exact List.cons_ne_nil _ _
  | many _ h_ne => exact h_ne

-- ============================================================================
-- Recovery
-- ============================================================================

variable {W : Type} {context : Context W}

/-- The memory of a run is sound. -/
def Run.Sound (fits : Fits) (run : Run W) : Prop :=
  run.memory.Sound fits

/-- Neither a call nor a pause nor a new handle writes to the memory. -/
theorem Run.sound_steady : Steady context (Run.Sound fits) where
  exchange _ _ _ _ h_run := h_run
  pause _ _ h_run := h_run
  newHandle _ h_run := ⟨fun _ => h_run, fun _ _ h_later => h_later⟩

/-- When everything is forgotten nothing is left to be said. -/
theorem Run.sound_lasting : Lasting context (Run.Sound fits) where
  toPassive := Run.sound_steady.toPassive
  forget _ _ := Memory.sound_empty
  depart _ _ _ _ h_run := h_run

theorem remember_keeps {key : String} {value : Cached} (h : value.SoundAt fits key) :
    Keeps context (Run.Sound fits) (remember key value) :=
  .modifyMemory fun _ h_run => Memory.Sound.remember h_run h

namespace Handle

/-- A handle that memoizes itself was found for a slot, under no element, as the only match. -/
theorem memoize_keeps {handle : Handle} (h : handle.own.Sound fits handle.ancestors) :
    Keeps context (Run.Sound fits) handle.memoize := by
  rw [memoize]
  split
  · rename_i slot h_slot
    split
    · rename_i h_memoizes
      obtain ⟨slot', h_slot', h_sound⟩ := h h_memoizes
      obtain rfl := Option.some.inj (h_slot.symm.trans h_slot')
      exact remember_keeps (.elements h_sound)
    · exact .pure ()
  · exact .pure ()

theorem reload_keeps {handle : Handle} {refind : Action W Reference}
    (h : handle.own.Sound fits handle.ancestors)
    (h_refind : Keeps context (Run.Sound fits) refind) :
    Keeps context (Run.Sound fits) (handle.reload refind) :=
  .bind (Steady.requirePage _) fun _ => .bind h_refind fun _ =>
    .bind (.modify fun _ h_run => h_run) fun _ => memoize_keeps h

/-- A call keeps the memory sound, whichever of the elements around its own have to be found
    again. -/
theorem request_keeps {own : Link} {ancestors : List Link} (operation : String)
    (call : ElementCall) (h : own.ChainSound fits ancestors) :
    Keeps context (Run.Sound fits) (request own ancestors operation call) := by
  have h_ask : ∀ reference, Keeps context (Run.Sound fits) (ask (.element reference call)) :=
    fun _ => .ask fun _ h_run => h_run
  induction ancestors generalizing own operation call with
  | nil =>
    rw [request]
    refine recovering_keeps_of operation h_ask (reload_keeps h ?_)
    exact Steady.refind own (Run.sound_steady.sessionCall _ _ rfl)
      (Run.sound_steady.sessionCall _ _ rfl)
  | cons parent rest ih =>
    rw [request]
    refine recovering_keeps_of operation h_ask (reload_keeps h.1 ?_)
    have h_query : ∀ query : ElementCall, Keeps context (Run.Sound fits)
        (request parent rest reloading query) :=
      fun query => ih reloading query h.2 fun _ => .ask fun _ h_run => h_run
    exact Steady.refind own (h_query _) (h_query _)

theorem perform_keeps {handle : Handle} (call : ElementCall) (h : handle.Sound fits) :
    Keeps context (Run.Sound fits) (handle.perform call) :=
  request_keeps call.operation call h

end Handle
end PageObjects
