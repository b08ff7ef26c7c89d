/-
  PageObjects.Proofs.Memory.Lookup

  What the operations on elements, slots, groups and tables leave in the memory of a
  page, and how the handles look that they give. Each of them is one lemma: `keeps`
  where only the memory matters, `yields` where the operation gives handles that a
  test may go on to hold.

    * `Sourced`: what is to be shown of a kind of handles, so that all lookups give such handles.
    * `Binding.resolve_yields`: resolved handles are as they are remembered, whether
      they come from the memory or from a new query.
    * `Page.memberBinding_yields`: the binding of a member of a group is one that
      fits its name, whether it was made now or before.
    * `Table.load_yields`, `Page.rememberedTable_yields`: tables as they are remembered.
    * `Sourced.workable`: what is found inside of elements.
-/

import PageObjects.Proofs.Memory.Stored

namespace PageObjects

open PageObjects.Action

variable {W : Type} {context : Context W} {fits : Fits}

/-- Handles that may be held by a test. -/
def AllSound (fits : Fits) (handles : List Handle) : Prop :=
  ∀ handle ∈ handles, handle.Sound fits

-- ============================================================================
-- Elements
-- ============================================================================

namespace Handle

variable {handle : Handle}

/-- What is found inside an element that may be held may be held. -/
theorem sound_of_inside (h : handle.Sound fits) {found : Handle}
    (h_memoizes : found.own.memoizes = false) (h_ancestors : found.ancestors = handle.chain) :
    found.Sound fits := by
  refine Link.chainSound_of_not_memoizes h_memoizes fun parent rest h_chain => ?_
  rw [h_ancestors] at h_chain
  cases h_chain
  exact h

theorem innerHtml_keeps (h : handle.Sound fits) :
    Keeps context (Run.Sound fits) handle.innerHtml :=
  .bind (perform_keeps _ h) fun _ => .pure _

end Handle

/-- Handles that may be held are good by where they come from: from a query for no slot, from a
    search inside of another one, or from what may be remembered for a slot. -/
structure Sourced (fits : Fits) (good : Handle → Prop) : Prop where
  sound {handle : Handle} : good handle → handle.Sound fits
  outermost {handle : Handle} : handle.own.slot = none → handle.own.memoizes = false →
    handle.ancestors = [] → good handle
  inside {handle found : Handle} : good handle → found.own.slot = none →
    found.own.memoizes = false → found.ancestors = handle.chain → good found
  remembered {slot : String} {resolved : Resolved} : resolved.SoundAt fits slot →
    ∀ handle ∈ resolved.toList, good handle

theorem Handle.sound_sourced : Sourced fits (Handle.Sound fits) where
  sound h := h
  outermost _ h_memoizes h_ancestors := sound_of_outermost h_memoizes h_ancestors
  inside h _ h_memoizes h_ancestors := sound_of_inside h h_memoizes h_ancestors
  remembered h := h.sound

variable {good : Handle → Prop}

namespace Sourced

variable {handle : Handle}

theorem find_yields (h_good : Sourced fits good) (h : good handle) (locator : Locator) :
    Yields context (Run.Sound fits) (handle.find locator) good :=
  Keeps.bind_yields (Handle.perform_keeps _ (h_good.sound h)) fun _ =>
    (Run.sound_steady.register_yields _ _ _ _ _ _).weaken
      fun _ ⟨_, h_slot, h_memoizes, _, h_ancestors⟩ =>
        h_good.inside h h_slot h_memoizes h_ancestors

theorem findAll_yields (h_good : Sourced fits good) (h : good handle) (locator : Locator) :
    Yields context (Run.Sound fits) (handle.findAll locator) fun handles =>
      ∀ found ∈ handles, good found :=
  Keeps.bind_yields (Handle.perform_keeps _ (h_good.sound h)) fun references =>
    (Run.sound_steady.registerAll_inside_yields _ _ _ _ references).weaken
      fun _ h_handles found h_mem =>
        let ⟨h_slot, h_memoizes, h_ancestors⟩ := h_handles found h_mem
        h_good.inside h h_slot h_memoizes h_ancestors

/-- Such handles are good to work with. -/
theorem workable (h_good : Sourced fits good) : Workable context (Run.Sound fits) good where
  toLasting := Run.sound_lasting
  perform _ h call := Handle.perform_keeps call (h_good.sound h)
  find _ h locator := h_good.find_yields h locator
  findAll _ h locator := h_good.findAll_yields h locator

end Sourced

-- ============================================================================
-- Bindings
-- ============================================================================

theorem cached?_yields (key : String) :
    Yields context (Run.Sound fits) (cached? key) fun found =>
      ∀ value ∈ found, value.SoundAt fits key :=
  Yields.bind .get fun _ h_run => .pure fun value h_found => h_run.cache key value h_found

namespace Binding

/-- What a query for a slot gives may be remembered for the slot. -/
theorem query_yields {binding : Binding} {slot : String} (h : fits slot binding) :
    Yields context (Run.Sound fits) (binding.query (some slot)) (Resolved.SoundAt fits slot) := by
  obtain ⟨locator, cardinality⟩ := binding
  cases cardinality with
  | one =>
    refine Keeps.bind_yields (Run.sound_steady.sessionCall _ _ rfl) fun reference =>
      (Run.sound_steady.register_yields _ _ _ _ _ _).map fun handle h_handle => ?_
    obtain ⟨h_locator, h_slot, h_memoizes, h_position, h_ancestors⟩ := h_handle
    refine ⟨.one h_slot h_memoizes h_position h_ancestors, fun binding h_mem => ?_⟩
    obtain rfl := List.mem_singleton.1 h_mem
    rw [h_locator]
    exact h
  | many =>
    refine Keeps.bind_yields (Run.sound_steady.sessionCall _ _ rfl) fun references => ?_
    split
    · exact .throw _
    · rename_i h_some
      refine (Run.sound_steady.registerAll_yields _ _ _ _ _).map fun handles h_handles => ?_
      obtain ⟨h_length, h_all⟩ := h_handles
      refine ⟨.many locator ?_ fun index handle h_index => ?_, fun binding h_mem => ?_⟩
      · rintro rfl
        exact h_some (List.isEmpty_iff_length_eq_zero.2 h_length.symm)
      · have h_handle := h_all index handle h_index
        rwa [Nat.zero_add] at h_handle
      · obtain ⟨handle, h_handle, rfl⟩ := List.mem_map.1 h_mem
        obtain ⟨index, h_index⟩ := List.mem_iff_getElem?.1 h_handle
        rw [(h_all index handle h_index).1]
        exact h

theorem query_none_yields (h_good : Sourced fits good) (binding : Binding) :
    Yields context (Run.Sound fits) (binding.query none) fun resolved =>
      ∀ handle ∈ resolved.toList, good handle := by
  obtain ⟨locator, cardinality⟩ := binding
  cases cardinality with
  | one =>
    refine Keeps.bind_yields (Run.sound_steady.sessionCall _ _ rfl) fun reference =>
      (Run.sound_steady.register_yields _ _ _ _ _ _).map fun handle h_handle other h_mem => ?_
    obtain rfl := List.mem_singleton.1 h_mem
    obtain ⟨-, h_slot, h_memoizes, -, h_ancestors⟩ := h_handle
    exact h_good.outermost h_slot h_memoizes h_ancestors
  | many =>
    refine Keeps.bind_yields (Run.sound_steady.sessionCall _ _ rfl) fun references => ?_
    split
    · exact .throw _
    · refine (Run.sound_steady.registerAll_inside_yields _ _ _ _ _).map
        fun handles h_handles handle h_mem => ?_
      obtain ⟨h_slot, h_memoizes, h_ancestors⟩ := h_handles handle h_mem
      exact h_good.outermost h_slot h_memoizes h_ancestors

theorem live?_yields (slot : String) :
    Yields context (Run.Sound fits) (live? slot) fun found =>
      ∀ resolved ∈ found, resolved.SoundAt fits slot := by
  refine (cached?_yields slot).bind fun found h_found => ?_
  split
  · rename_i resolved
    split
    · exact .pure fun _ h_mem => (nomatch h_mem)
    · rename_i first rest h_list
      refine Keeps.bind_yields (Run.sound_steady.isStale first) fun stale => .pure ?_
      cases h_found _ rfl with
      | elements h_resolved =>
        intro other h_other
        cases stale with
        | true => exact nomatch h_other
        | false => exact Option.some.inj h_other ▸ h_resolved
  · exact .pure fun _ h_mem => (nomatch h_mem)

/-- Resolved handles look as they are remembered, be it from before or now. -/
theorem resolve_yields {binding : Binding} {slot : String} (h : fits slot binding) :
    Yields context (Run.Sound fits) (binding.resolve slot) (Resolved.SoundAt fits slot) := by
  refine Keeps.bind_yields Run.sound_steady.checkOpened fun _ => (live?_yields slot).bind
    fun found h_found => ?_
  split
  · exact .pure (h_found _ rfl)
  · refine (query_yields h).bind fun resolved h_resolved => ?_
    exact Keeps.bind_yields (remember_keeps (.elements h_resolved)) fun _ => .pure h_resolved

end Binding

-- ============================================================================
-- Slots and groups
-- ============================================================================

namespace Page

/-- The first handle is as all are. -/
theorem head_yields {resolved : Resolved}
    (h : ∀ handle ∈ resolved.toList, good handle) :
    Yields context (Run.Sound fits) (liftM resolved.head : Action W Handle) good := by
  refine .lift _ fun handle h_head => ?_
  rw [Resolved.head] at h_head
  split at h_head
  · exact nomatch h_head
  · rename_i first rest h_list
    obtain rfl := Except.ok.inj h_head
    exact h first (h_list ▸ List.mem_cons_self)

/-- Resolving a slot, where the binding that is declared for it fits its name. -/
theorem resolve_yields {slot : String}
    (h : ∀ binding, context.page.elements.find? slot = some binding → fits slot binding) :
    Yields context (Run.Sound fits) (resolve slot) (Resolved.SoundAt fits slot) :=
  (declared_yields "element" elements slot).bind fun binding h_declared =>
    Binding.resolve_yields (h binding h_declared)

/-- Making a query again, where the binding of the handles fits their slot. -/
theorem reload_yields (h_good : Sourced fits good) {resolved : Resolved}
    (h : ∀ first slot, resolved.head = .ok first → first.own.slot = some slot →
      fits slot (match resolved with
        | .one _ => .one first.own.locator
        | .many _ => .many first.own.locator)) :
    Yields context (Run.Sound fits) (reload resolved) fun found =>
      ∀ handle ∈ found.toList, good handle := by
  refine Yields.bind (.lift _ fun first h_first => h_first) fun first h_first => ?_
  dsimp only
  split
  · rename_i slot h_slot
    exact Keeps.bind_yields (.modifyMemory fun _ h_run => Memory.Sound.forget h_run slot) fun _ =>
      (Binding.resolve_yields (h first slot h_first h_slot)).weaken fun _ => h_good.remembered
  · exact Binding.query_none_yields h_good _

theorem find_yields (h_good : Sourced fits good) (locator : Locator) :
    Yields context (Run.Sound fits) (find locator) good :=
  (Binding.query_none_yields h_good _).bind fun _ h_resolved => head_yields h_resolved

theorem findAll_yields (h_good : Sourced fits good) (locator : Locator) :
    Yields context (Run.Sound fits) (findAll locator) fun handles =>
      ∀ handle ∈ handles, good handle :=
  (Binding.query_none_yields h_good _).map fun _ h_resolved => h_resolved

theorem findNamed_yields (h_good : Sourced fits good) (name : String) :
    Yields context (Run.Sound fits) (findNamed name) good :=
  Keeps.bind_yields .read fun _ => find_yields h_good _

/-- The binding of a member, whether it is made now or was made before, fits the name. -/
theorem memberBinding_yields {group : ElementGroup} {name : String}
    (h : fits name ⟨group.locator context.page.settings name, group.cardinality⟩) :
    Yields context (Run.Sound fits) (memberBinding group name) (fits name) := by
  refine Yields.bind .get fun _ h_run => ?_
  split
  · exact .pure (h_run.members name _ ‹_›)
  · refine Yields.read.bind fun _ h_context => ?_
    subst h_context
    exact Keeps.bind_yields (.modifyMemory fun _ h_run => Memory.Sound.bindMember h_run h)
      fun _ => .pure h

/-- Where the binding of a member fits its name. -/
def MemberFits (fits : Fits) (page : Page) (group : ElementGroup) (indices : List String) : Prop :=
  ∀ name, group.name indices = .ok name →
    fits name ⟨group.locator page.settings name, group.cardinality⟩

variable {group : ElementGroup} {indices : List String}

theorem groupBinding_keeps (h : MemberFits fits context.page group indices) :
    Keeps context (Run.Sound fits) (groupBinding group indices) :=
  Yields.bind_keeps (.lift _ fun _ h_name => h_name) fun name h_name =>
    (memberBinding_yields (h name h_name)).keeps

theorem groupMember_yields (h : MemberFits fits context.page group indices) :
    Yields context (Run.Sound fits) (groupMember group indices) fun resolved =>
      ∃ name, group.name indices = .ok name ∧ resolved.SoundAt fits name :=
  Yields.bind (.lift _ fun _ h_name => h_name) fun name h_name =>
    (memberBinding_yields (h name h_name)).bind fun _ h_binding =>
      (Binding.resolve_yields h_binding).weaken fun _ h_resolved => ⟨name, h_name, h_resolved⟩

theorem groupRelative_yields (h_good : Sourced fits good) (group : ElementGroup)
    (indices : List String) :
    Yields context (Run.Sound fits) (groupRelative group indices) good :=
  Keeps.bind_yields (.lift _) fun _ => Keeps.bind_yields .read fun _ => find_yields h_good _

end Page

-- ============================================================================
-- Tables
-- ============================================================================

/-- The root of a table has the key of the table as its slot but does not memoize itself, so that
    the table stays under its key when the root is found again. -/
theorem Cached.StoredAt.root_sound {key : String} {table : Table}
    (h : Cached.StoredAt key (.table table)) : table.root.Sound fits := by
  cases h with
  | table _ _ h_memoizes h_ancestors => exact Handle.sound_of_outermost h_memoizes h_ancestors

namespace Table

theorem load_yields (slot : String) (spec : TableSpec) (rootXPath : String) :
    Yields context (Run.Sound fits) (load slot spec rootXPath) fun table =>
      Cached.StoredAt slot (.table table) := by
  refine Keeps.bind_yields (Run.sound_steady.sessionCall _ _ rfl) fun reference =>
    (Run.sound_steady.register_yields _ _ _ _ _ _).bind fun root h_root => ?_
  obtain ⟨-, h_slot, h_memoizes, -, h_ancestors⟩ := h_root
  have h_sound : root.Sound fits := Handle.sound_of_outermost h_memoizes h_ancestors
  refine (Handle.sound_sourced.find_yields h_sound _).bind fun head h_head =>
    Keeps.bind_yields (Handle.innerHtml_keeps h_head) fun markup =>
      Keeps.bind_yields (.lift _) fun header => .pure ?_
  exact .table rfl h_slot h_memoizes h_ancestors

end Table

namespace Page

theorem cachedTable?_yields (key : String) :
    Yields context (Run.Sound fits) (cachedTable? key) fun found =>
      ∀ table ∈ found, Cached.StoredAt key (.table table) := by
  refine (cached?_yields key).bind fun found h_found => ?_
  split
  · rename_i table
    refine .pure fun other h_other => ?_
    obtain rfl := Option.some.inj h_other
    cases h_found _ rfl with
    | table h_table => exact h_table
  · exact .pure fun _ h_mem => (nomatch h_mem)

/-- A remembered table, where a new one is loaded for its key. -/
theorem rememberedTable_yields {key : String} {load : Action W Table}
    (h : Yields context (Run.Sound fits) load fun table => Cached.StoredAt key (.table table)) :
    Yields context (Run.Sound fits) (rememberedTable key load) fun table =>
      Cached.StoredAt key (.table table) := by
  refine Keeps.bind_yields Run.sound_steady.checkOpened fun _ => (cachedTable?_yields key).bind
    fun found h_found => ?_
  split
  · exact .pure (h_found _ rfl)
  · refine h.bind fun table h_table => ?_
    exact Keeps.bind_yields (remember_keeps (.table h_table)) fun _ => .pure h_table

theorem table_yields (slot : String) :
    Yields context (Run.Sound fits) (table slot) fun table =>
      Cached.StoredAt slot (.table table) :=
  rememberedTable_yields <| (declared_yields "table" tables slot).bind fun _ _ =>
    Keeps.bind_yields .read fun _ => Table.load_yields _ _ _

theorem nestedTable_yields (slot : String) (index : Nat) :
    Yields context (Run.Sound fits) (nestedTable slot index) fun table =>
      Cached.StoredAt (slot ++ "[" ++ toString index ++ "]") (.table table) := by
  refine rememberedTable_yields <| (declared_yields "nested tables" nested slot).bind
    fun nested _ => Keeps.bind_yields .read fun _ => ?_
  dsimp only
  split
  · exact .throw _
  · exact Table.load_yields _ _ _

end Page
end PageObjects
