/-
  PageObjects.Proofs.Memory.Failure

  A lookup that fails leaves alone what is remembered. A lookup may fail at many points:
  the page is not open, the slot is not declared, what is remembered has gone stale and
  is not found anew, the header of a table makes no sense. None of the steps before
  these points writes to the cache, and none of them gives a new reference to a handle
  that was there before. What is found is remembered in a last step, which cannot fail.

    * `Run.spared_steady`: calls, pauses and new handles spare what is remembered.
    * `Binding.resolve_spares`, `Page.rememberedTable_spares`: the two lookups that
      remember what they find.
    * `spared_of_failed_lookup`: every lookup of a page, over any driver.
-/

import PageObjects.Proofs.Action.Steady
import PageObjects.Proofs.Memory.Session

namespace PageObjects

open PageObjects.Action

variable {W α β : Type} {context : Context W} {inv : Run W → Prop} {start : Run W}

-- ============================================================================
-- What is spared
-- ============================================================================

/-- Since `start` the cache is the same, and so are the references of the handles of then. -/
structure Run.Spared (start run : Run W) : Prop where
  cache : run.memory.cache = start.memory.cache
  nextId_le : start.nextId ≤ run.nextId
  references : ∀ id < start.nextId, run.references.find? id = start.references.find? id

theorem Run.Spared.refl (run : Run W) : run.Spared run :=
  ⟨rfl, Nat.le_refl _, fun _ _ => rfl⟩

theorem Run.Spared.trans {run after : Run W} (h : start.Spared run) (h' : run.Spared after) :
    start.Spared after := by
  refine ⟨h'.cache.trans h.cache, Nat.le_trans h.nextId_le h'.nextId_le, fun id h_id => ?_⟩
  rw [h'.references id (Nat.lt_of_lt_of_le h_id h.nextId_le), h.references id h_id]

/-- A reference of a handle that is newer than `start`. -/
theorem Run.Spared.putReference {run : Run W} (h : start.Spared run) {id : Nat}
    (h_new : start.nextId ≤ id) (reference : Reference) :
    start.Spared { run with references := run.references.put id reference } := by
  refine ⟨h.cache, h.nextId_le, fun other h_other => ?_⟩
  have h_ne : id ≠ other := by omega
  show (run.references.put id reference).find? other = _
  rw [Keyed.find?_put_of_ne h_ne]
  exact h.references other h_other

theorem Run.spared_steady (context : Context W) (start : Run W) : Steady context start.Spared where
  exchange _ _ _ _ h_run := ⟨h_run.cache, h_run.nextId_le, h_run.references⟩
  pause _ _ h_run := ⟨h_run.cache, h_run.nextId_le, h_run.references⟩
  newHandle run h_run := by
    refine ⟨fun reference => ?_, fun reference later h_later =>
      h_later.putReference h_run.nextId_le reference⟩
    have h_put := h_run.putReference h_run.nextId_le reference
    exact ⟨h_put.cache, Nat.le_succ_of_le h_run.nextId_le, h_put.references⟩

/-- From a state that has spared what `start` remembers, an error does so too; a result is good. -/
def Sparing (context : Context W) (start : Run W) (action : Action W α) (good : α → Prop) : Prop :=
  Triple context start.Spared action (fun a _ => good a) fun _ => start.Spared

variable {good : α → Prop} {good' : β → Prop}

/-- What is done before the first write. -/
theorem Sparing.bind {x : Action W α} {f : α → Action W β}
    (h_x : Yields context start.Spared x good)
    (h_f : ∀ a, good a → Sparing context start (f a) good') :
    Sparing context start (x >>= f) good' :=
  Triple.bind h_x fun a run h_run => h_f a h_run.2 run h_run.1

theorem Sparing.keeps_bind {x : Action W α} {f : α → Action W β}
    (h_x : Keeps context start.Spared x) (h_f : ∀ a, Sparing context start (f a) good') :
    Sparing context start (x >>= f) good' :=
  Triple.bind h_x h_f

theorem Sparing.map {x : Action W α} {f : α → β} (h_x : Sparing context start x good) :
    Sparing context start (do return f (← x)) fun _ => True :=
  Triple.bind h_x fun _ _ _ => trivial

/-- To remember what was found cannot fail. -/
theorem remember_spares (key : String) (value : Cached) {a : α} (h : good a) :
    Sparing context start (do remember key value; return a) good :=
  fun _ _ => h

-- ============================================================================
-- Elements
-- ============================================================================

namespace Steady

/-- A query that finds nothing is an error. -/
theorem query_filled (h : Steady context inv) (binding : Binding) (slot : Option String) :
    Yields context inv (binding.query slot) fun resolved => resolved.toList ≠ [] := by
  rw [Binding.query]
  dsimp only
  split
  · exact Keeps.bind_yields (h.sessionCall _ _ rfl) fun _ =>
      Keeps.bind_yields (h.register _ _ _ _ _ _) fun _ => .pure (List.cons_ne_nil _ _)
  · refine Keeps.bind_yields (h.sessionCall _ _ rfl) fun references => ?_
    split
    · exact .throw _
    · rename_i h_some
      refine (h.registerAll_yields _ _ _ _ references).map fun handles h_handles h_nil => ?_
      have h_length : handles.length = references.length := h_handles.1
      rw [show handles = [] from h_nil, List.length_nil] at h_length
      exact h_some (List.isEmpty_iff_length_eq_zero.mpr h_length.symm)

/-- An empty list counts as nothing that is remembered. -/
theorem live?_filled (h : Steady context inv) (slot : String) :
    Yields context inv (Binding.live? slot) fun found =>
      ∀ resolved ∈ found, resolved.toList ≠ [] := by
  refine Keeps.bind_yields (.bind .get fun _ => .pure _) fun found => ?_
  split
  · rename_i resolved
    split
    · exact .pure fun _ h_mem => nomatch h_mem
    · rename_i first rest h_list
      refine Keeps.bind_yields (h.isStale first) fun stale => .pure fun other h_other => ?_
      cases stale with
      | true => cases h_other
      | false =>
        obtain rfl := Option.some.inj h_other
        rw [h_list]
        exact List.cons_ne_nil _ _
  · exact .pure fun _ h_mem => nomatch h_mem

end Steady

/-- Handles of which there are any. -/
def Resolved.Filled (resolved : Resolved) : Prop :=
  resolved.toList ≠ []

theorem Resolved.Filled.head {resolved : Resolved} (h : resolved.Filled) :
    ∃ first, resolved.head = .ok first := by
  rw [Resolved.head]
  cases h_list : resolved.toList with
  | nil => exact absurd h_list h
  | cons first rest => exact ⟨first, rfl⟩

theorem Binding.resolve_spares (binding : Binding) (slot : String) :
    Sparing context start (binding.resolve slot) Resolved.Filled := by
  have h_steady : Steady context start.Spared := Run.spared_steady context start
  refine .keeps_bind h_steady.checkOpened fun _ => .bind (h_steady.live?_filled slot)
    fun found h_found => ?_
  split
  · exact fun _ _ => h_found _ rfl
  · refine .bind (h_steady.query_filled binding (some slot)) fun resolved h_resolved => ?_
    exact remember_spares _ _ h_resolved

namespace Page

theorem resolve_spares (slot : String) :
    Sparing context start (resolve slot) Resolved.Filled :=
  .keeps_bind (Steady.declared _ _ _) fun binding => binding.resolve_spares slot

theorem element_spares (slot : String) :
    Sparing context start (element slot) fun _ => True := by
  refine Triple.bind (resolve_spares slot) fun resolved run h_filled => ?_
  obtain ⟨first, h_first⟩ := Resolved.Filled.head h_filled
  rw [h_first]
  trivial

/-- The binding of a member is kept with the groups, not with what was found. -/
theorem memberBinding_spares (group : ElementGroup) (name : String) :
    Keeps context start.Spared (memberBinding group name) := by
  refine .bind .get fun run => ?_
  split
  · exact .pure _
  · refine .bind .read fun _ => .bind (.modifyMemory ?_) fun _ => .pure _
    exact fun run h_run => ⟨h_run.cache, h_run.nextId_le, h_run.references⟩

theorem groupMember_spares (group : ElementGroup) (indices : List String) :
    Sparing context start (groupMember group indices) Resolved.Filled :=
  .keeps_bind (.lift _) fun name => .keeps_bind (memberBinding_spares group name) fun binding =>
    binding.resolve_spares name

-- ============================================================================
-- Tables
-- ============================================================================

theorem rememberedTable_spares (key : String) {load : Action W Table}
    (h_load : Keeps context start.Spared load) :
    Sparing context start (rememberedTable key load) fun _ => True := by
  have h_cached : Keeps context start.Spared (cachedTable? key) :=
    .bind (.bind .get fun _ => .pure _) fun _ => .pure _
  refine .keeps_bind (Run.spared_steady context start).checkOpened fun _ =>
    .keeps_bind h_cached fun found => ?_
  split
  · exact fun _ _ => trivial
  · exact .keeps_bind h_load fun table => remember_spares _ _ trivial

theorem table_spares (slot : String) : Sparing context start (table slot) fun _ => True :=
  rememberedTable_spares slot <| .bind (Steady.declared _ _ _) fun _ => .bind .read fun _ =>
    (Run.spared_steady context start).load _ _ _

theorem nestedTable_spares (slot : String) (index : Nat) :
    Sparing context start (nestedTable slot index) fun _ => True := by
  refine rememberedTable_spares _ <| .bind (Steady.declared _ _ _) fun nested =>
    .bind .read fun _ => ?_
  dsimp only
  split
  · exact .throw _
  · exact (Run.spared_steady context start).load _ _ _

end Page

-- ============================================================================
-- Lookups
-- ============================================================================

/-- The operations that look something up and remember what they find. -/
def PageOperation.isLookup : PageOperation → Bool
  | resolve _ | element _ | elementList _ | resolveBinding _ _ | groupMember _ _ | table _
  | nestedTable _ _ => true
  | _ => false

theorem PageOperation.spares {operation : PageOperation} (h : operation.isLookup = true) :
    Sparing context start operation.action fun _ => True := by
  cases operation with
  | resolve slot => exact .map (Page.resolve_spares slot)
  | element slot => exact .map (Page.element_spares slot)
  | elementList slot => exact .map (.map (Page.resolve_spares slot))
  | resolveBinding binding slot => exact .map (binding.resolve_spares slot)
  | groupMember slot indices =>
    exact .map (.keeps_bind (Steady.declared _ _ _) fun group =>
      Page.groupMember_spares group indices)
  | table slot => exact .map (Page.table_spares slot)
  | nestedTable slot index => exact .map (Page.nestedTable_spares slot index)
  | _ => cases h

/-- A lookup that fails leaves the same values under the same keys, and every handle of then its
    reference, in whatever state it starts, whatever the driver answers and whatever it fails of. -/
theorem spared_of_failed_lookup {driver : Driver W} {page : Page} {operation : PageOperation}
    (h_lookup : operation.isLookup = true) {run after : Run W} {e : PageError}
    (h_fail : operation.action ⟨driver, page⟩ run = (.error e, after)) : run.Spared after := by
  have h_spares : Sparing ⟨driver, page⟩ run operation.action fun _ => True :=
    PageOperation.spares h_lookup
  have h_end := h_spares run (.refl run)
  rw [h_fail] at h_end
  exact h_end

/-- The row that is remembered has gone stale, and no row is there any more: it stays remembered. -/
theorem spared_of_failed_lookup_row : ∃ held run e after,
    Reached Browser.driver Page.withRow (fun _ => True) held run
      ∧ (run.memory.cache.find? "row").isSome = true
      ∧ (PageOperation.resolve "row").action ⟨Browser.driver, .withRow⟩ run = (.error e, after)
      ∧ run.Spared after := by
  have h_start : Reached Browser.driver Page.withRow (fun _ => True) {}
      { world := Browser.twoRows } := .start rfl
  have h_row := (h_start.operate (.onPage (.visit none [])) trivial trivial).operate
    (.onPage (.element "row")) trivial trivial
  obtain ⟨held, run, h_run, h_cached, h_gone⟩ : ∃ held run,
      Reached Browser.driver Page.withRow (fun _ => True) held run
        ∧ (run.memory.cache.find? "row").isSome = true
        ∧ ((PageOperation.resolve "row").action ⟨Browser.driver, .withRow⟩ run).1.isOk = false :=
    ⟨_, _, h_row.change { url := "http://shop.local/rows", rendering := 2 }, by decide +kernel,
      by decide +kernel⟩
  rcases h_end : (PageOperation.resolve "row").action ⟨Browser.driver, .withRow⟩ run
    with ⟨e | found, after⟩
  · exact ⟨held, run, e, after, h_run, h_cached, h_end, spared_of_failed_lookup rfl h_end⟩
  · rw [h_end] at h_gone
    cases h_gone

end PageObjects
