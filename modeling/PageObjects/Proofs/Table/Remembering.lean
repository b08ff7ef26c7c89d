/-
  PageObjects.Proofs.Table.Remembering

  The tables that a page remembers are tables that a test has got. Only the lookup of a
  table writes one to the memory, and it gives the table that it writes; handles are
  remembered apart from tables, and an operation on a table remembers none.

    * `Run.remembersOnly_steadfast`: whatever a test does but to look something up.
    * `Page.rememberedTable_remembers`: the lookup of a table.
    * `Looking.remembersOnly`: a test that looks up no table has the page remember none.
-/

import PageObjects.Proofs.Action.Steadfast
import PageObjects.Proofs.Recovery.Looking

namespace PageObjects

open PageObjects.Action

variable {W : Type} {context : Context W} {page : Page} {tables : List Table}

-- ============================================================================
-- Tables in the memory
-- ============================================================================

/-- The page remembers no table but those given. -/
def Run.RemembersOnly (tables : List Table) (run : Run W) : Prop :=
  ∀ key table, run.memory.cache.find? key = some (.table table) → table ∈ tables

/-- A value that is no other table may be remembered. -/
theorem Run.RemembersOnly.put {run : Run W} (h : run.RemembersOnly tables) (key : String)
    {value : Cached} (h_value : ∀ table, value = .table table → table ∈ tables) :
    Run.RemembersOnly tables { run with memory :=
      { run.memory with cache := run.memory.cache.put key value } } := by
  intro other table h_find
  by_cases h_key : key = other
  · subst h_key
    rw [Keyed.find?_put_self] at h_find
    exact h_value table (Option.some.inj h_find)
  · rw [Keyed.find?_put_of_ne h_key] at h_find
    exact h other table h_find

theorem Run.RemembersOnly.more {run : Run W} (h : run.RemembersOnly tables) (table : Table) :
    run.RemembersOnly (table :: tables) :=
  fun key other h_find => List.mem_cons_of_mem table (h key other h_find)

theorem Run.remembersOnly_steadfast (context : Context W) (tables : List Table) :
    Steadfast context (Run.RemembersOnly tables) where
  exchange _ _ _ _ h_run := h_run
  pause _ _ h_run := h_run
  newHandle _ h_run := ⟨fun _ => h_run, fun _ _ h_later => h_later⟩
  forget _ _ := fun _ _ h_find => nomatch h_find
  depart _ _ _ _ h_run := h_run
  act _ _ _ h_run := h_run
  free _ := ⟨fun _ _ h_run => h_run, fun _ slot _ _ h_run => h_run.put slot nofun⟩

-- ============================================================================
-- Lookups
-- ============================================================================

namespace Page

/-- What is remembered for a slot for elements is no table. -/
theorem resolve_remembers (slot : String) :
    Keeps context (Run.RemembersOnly tables) (resolve slot) :=
  .bind (Steady.declared _ _ _) fun binding =>
    (Run.remembersOnly_steadfast context tables).resolveBinding binding
      fun _ _ h_run => h_run.put slot nofun

/-- The lookup of a table gives the table that it remembers. -/
theorem rememberedTable_remembers (key : String) {load : Action W Table}
    (h_load : Keeps context (Run.RemembersOnly tables) load) :
    Triple context (Run.RemembersOnly tables) (rememberedTable key load)
      (fun table => Run.RemembersOnly (table :: tables)) fun _ => Run.RemembersOnly tables := by
  have h_cached : Keeps context (Run.RemembersOnly tables) (cachedTable? key) :=
    .bind (.bind .get fun _ => .pure _) fun _ => .pure _
  have h_put : ∀ table, Triple context (Run.RemembersOnly tables) (remember key (.table table))
      (fun _ => Run.RemembersOnly (table :: tables)) fun _ => Run.RemembersOnly tables := by
    intro table run h_run
    refine (h_run.more table).put key fun other h_same => ?_
    cases h_same
    exact List.mem_cons_self
  have h_opened := (Run.remembersOnly_steadfast context tables).checkOpened
  refine Triple.bind h_opened fun _ => Triple.bind h_cached fun found => ?_
  cases found with
  | some table => exact fun run h_run => h_run.more table
  | none =>
    exact Triple.bind h_load fun table => Triple.bind (h_put table) fun _ _ h_run => h_run

theorem table_remembers (slot : String) :
    Triple context (Run.RemembersOnly tables) (table slot)
      (fun table => Run.RemembersOnly (table :: tables)) fun _ => Run.RemembersOnly tables :=
  rememberedTable_remembers slot <| .bind (Steady.declared _ _ _) fun _ =>
    .bind .read fun _ => (Run.remembersOnly_steadfast context tables).load _ _ _

theorem nestedTable_remembers (slot : String) (index : Nat) :
    Triple context (Run.RemembersOnly tables) (nestedTable slot index)
      (fun table => Run.RemembersOnly (table :: tables)) fun _ => Run.RemembersOnly tables := by
  refine rememberedTable_remembers _ <| .bind (Steady.declared _ _ _) fun _ =>
    .bind .read fun _ => ?_
  dsimp only
  split
  · exact .throw _
  · exact (Run.remembersOnly_steadfast context tables).load _ _ _

end Page

theorem Lookup.remembers (lookup : Lookup) :
    Keeps ⟨Browser.driver, page⟩ (Run.RemembersOnly tables) lookup.action := by
  have h_inv := Run.remembersOnly_steadfast ⟨Browser.driver, page⟩ tables
  cases lookup with
  | element slot =>
    exact .bind (.bind (Page.resolve_remembers slot) fun _ => .lift _) fun _ => .pure _
  | elementList slot => exact .bind (Page.resolve_remembers slot) fun _ => .pure _
  | find locator => exact .bind (.bind (h_inv.query _ _) fun _ => .lift _) fun _ => .pure _
  | findAll locator => exact .bind (h_inv.query _ _) fun _ => .pure _
  | inside outer locator =>
    exact .bind (h_inv.find (h_inv.handleFree outer) locator).keeps fun _ => .pure _
  | allInside outer locator => exact h_inv.findAll (h_inv.handleFree outer) locator

-- ============================================================================
-- Whole tests
-- ============================================================================

/-- A test that looks no table up has the page remember none. -/
theorem Looking.remembersOnly {stage : Browser} {hands : List (Handle × String)}
    {run : Run Browser} (h : Looking stage page hands run) : run.RemembersOnly [] := by
  have h_inv := Run.remembersOnly_steadfast ⟨Browser.driver, page⟩ []
  induction h with
  | start => exact fun _ _ h_find => nomatch h_find
  | change _ _ _ ih => exact ih
  | visit pattern params _ ih => exact Keeps.iff.mp (h_inv.visit pattern params) _ ih
  | redirect url _ ih => exact Keeps.iff.mp (h_inv.redirect url) _ ih
  | lookup lookup _ _ ih => exact Keeps.iff.mp lookup.remembers _ ih
  | @read _ _ handle call _ _ _ ih => exact Keeps.iff.mp (h_inv.perform handle call) _ ih

end PageObjects
