/-
  PageObjects.Proofs.Table.Viewing

  Tests that read the tables of a page and change no node of it. `Viewing` is every
  state that such a test comes to: it looks at the page, reads tables from it, reads
  cells, rows and columns of the tables that it has, opens pages, and meanwhile the
  page is rendered anew any number of times.

    * `Seen` is what is kept of a table: its root is placed, and its header is the one
      that the page shows.
    * `Table.load_leads`, `Page.rememberedTable_leads`: tables are seen when they are got.
    * `TableOperation.keeps`: one operation on a table, one case for each.
    * `Viewing.remembersOnly`, `Viewing.inView`: a whole test, by induction on its steps. The
      page remembers no table but those that the test has got, and these are seen.
-/

import PageObjects.Proofs.Memory.Session
import PageObjects.Proofs.Recovery.Finding
import PageObjects.Proofs.Table.Remembering

namespace PageObjects

open PageObjects.Action

variable {stage : Browser} {page : Page} {start run run' : Run Browser}

-- ============================================================================
-- Tables that a test has
-- ============================================================================

/-- The markup of the header of a table, by the xpath of the table. -/
def Browser.headerMarkup? (stage : Browser) (rootXPath : String) : Option String := do
  let root ← (stage.namesIn (.xpath rootXPath)).head?
  let header ← (stage.below root Table.headerXPath).head?
  return ((stage.node header).attributes.find? "innerHTML").getD ""

/-- The root of a table names the first node at the xpath of the table, and the header of the table
    is that of the page. -/
structure Seen (stage : Browser) (run : Run Browser) (table : Table) : Prop where
  root : ∃ node, (stage.namesIn (.xpath table.rootXPath)).head? = some node
    ∧ Names stage run table.root node
  header : ∃ markup tracked, stage.headerMarkup? table.rootXPath = some markup
    ∧ Header.parse markup Header.defaultTextKey tracked = .ok table.header

theorem Follows.seen {table : Table} (h : Follows stage run run') (h_seen : Seen stage run table) :
    Seen stage run' table := by
  obtain ⟨⟨node, h_node, h_names⟩, h_header⟩ := h_seen
  exact ⟨⟨node, h_node, h.names h_names⟩, h_header⟩

namespace Table

/-- A table that is read from the page is seen. -/
theorem load_leads (h_calm : stage.Calm) (slot : String) (spec : TableSpec) (rootXPath : String) :
    Leads stage page start (load slot spec rootXPath) fun table run => Seen stage run table := by
  refine .bind (sessionFind_leads (.xpath rootXPath) slot "find_table")
    fun reference run _ h_root => ?_
  refine .bind
    (Handle.register_names (.xpath rootXPath) (some slot) false (Around.nil run) rfl h_root)
    fun root run' _ h_names => ?_
  refine .bind (Handle.find_names h_calm h_names headerXPath) fun head run'' h_follows h_found => ?_
  obtain ⟨child, h_child, h_head⟩ := h_found
  refine .bind (Handle.innerHtml_leads h_calm h_head) fun markup found h_follows' h_markup => ?_
  refine .bind (.lift _) fun header last h_follows'' h_header => ?_
  refine .pure fun final h_final => ⟨⟨reference.node, h_root, ?_⟩, markup, _, ?_, h_header⟩
  · exact ((h_follows.trans h_follows').trans (h_follows''.trans h_final)).names h_names
  · show (do
      let root ← (stage.namesIn (.xpath rootXPath)).head?
      let header ← (stage.below root headerXPath).head?
      return ((stage.node header).attributes.find? "innerHTML").getD "" : Option String) = _
    rw [h_root, Option.bind_eq_bind, Option.bind_some, h_child, h_markup]
    rfl

variable {table : Table}

-- ============================================================================
-- One operation
-- ============================================================================

theorem item_leads (h_calm : stage.Calm) (h : Seen stage start table) (xpath : String) :
    Leads stage page start (table.item xpath) fun handle run =>
      Placed stage run handle.own handle.ancestors := by
  obtain ⟨_, -, h_placed, -⟩ := h.root
  refine .tryCatch (Handle.find_leads h_calm h_placed _) fun e => ?_
  split <;> exact .throw _

theorem items_leads (h_calm : stage.Calm) (h : Seen stage start table) (xpath : String) :
    Leads stage page start (table.items xpath) fun handles run => PlacedAll stage run handles := by
  obtain ⟨_, -, h_placed, -⟩ := h.root
  exact Handle.findAll_leads h_calm h_placed _

theorem explainMiss_leads (h_calm : stage.Calm) (h : Seen stage start table) (row column : Nat)
    (miss : PageError) :
    Leads stage page start (table.explainMiss row column miss) fun handle run =>
      Placed stage run handle.own handle.ancestors :=
  .bind (.orMiss _ (item_leads h_calm h _)) fun _ _ _ _ => .throw _

theorem cellElement_leads (h_calm : stage.Calm) (h : Seen stage start table) (row column : Nat) :
    Leads stage page start (table.cellElement row column) fun handle run =>
      Placed stage run handle.own handle.ancestors := by
  refine .tryCatch (item_leads h_calm h _) fun e => ?_
  split
  · exact explainMiss_leads h_calm h row column e
  · exact .throw e

theorem cell_leads (h_calm : stage.Calm) (h : Seen stage start table) (row column : Nat) :
    Leads stage page start (table.cell row column) fun _ _ => True :=
  .bind (cellElement_leads h_calm h row column) fun _ _ _ h_cell =>
    .bind (Handle.outerHtml_leads h_calm h_cell) fun _ _ _ _ =>
      (Leads.lift _).weaken fun _ _ _ => trivial

theorem valuesAt_leads (h_calm : stage.Calm) (h : Seen stage start table) (xpath : String)
    (row : Nat) : Leads stage page start (table.valuesAt xpath row) fun _ _ => True :=
  .bind (.orMiss _ (item_leads h_calm h xpath)) fun _ _ _ h_row =>
    .bind (Handle.outerHtml_leads h_calm h_row) fun _ _ _ _ =>
      (Leads.lift _).weaken fun _ _ _ => trivial

theorem cellValues_leads (h_calm : stage.Calm) {cells : List Handle}
    (h : PlacedAll stage start cells) :
    Leads stage page start (cellValues cells) fun _ _ => True := by
  induction cells generalizing start with
  | nil => exact .pure fun _ _ => trivial
  | cons cell rest ih =>
    obtain ⟨h_cell, h_rest⟩ := List.forall_mem_cons.mp h
    refine .bind (Handle.outerHtml_leads h_calm h_cell) fun markup run h_follows _ => ?_
    refine .bind (.lift _) fun value run' h_follows' _ => ?_
    refine .bind (ih ((h_follows.trans h_follows').placedAll h_rest)) fun values _ _ _ => ?_
    exact .pure fun _ _ => trivial

theorem columnValues_leads (h_calm : stage.Calm) (h : Seen stage start table) (column : Nat) :
    Leads stage page start (table.columnValues column) fun _ _ => True := by
  have h_items : Leads stage page start
      (table.items (XPath.column column) >>= fun cells => cellValues cells) fun _ _ => True :=
    .bind (items_leads h_calm h _) fun _ _ _ h_cells => cellValues_leads h_calm h_cells
  rw [columnValues]
  split
  · exact .throw_bind _ _
  · exact h_items

theorem valuesOf_leads (h_calm : stage.Calm) (h : Seen stage start table) (column : Column) :
    Leads stage page start (table.valuesOf column) fun _ _ => True :=
  .bind (.lift _) fun _ _ h_follows _ => columnValues_leads h_calm (h_follows.seen h) _

theorem indexByValue_leads (h_calm : stage.Calm) (h : Seen stage start table) (column : Column)
    (value : String) :
    Leads stage page start (table.indexByValue column value) fun _ _ => True := by
  refine .bind (valuesOf_leads h_calm h column) fun values _ _ _ => ?_
  split
  · exact .pure fun _ _ => trivial
  · exact .throw _

theorem rowByValue_leads (h_calm : stage.Calm) (h : Seen stage start table) (column : Column)
    (value : String) : Leads stage page start (table.rowByValue column value) fun _ _ => True :=
  .bind (indexByValue_leads h_calm h column value) fun _ _ h_follows _ =>
    valuesAt_leads h_calm (h_follows.seen h) _ _

theorem cellsContaining_leads (h_calm : stage.Calm) (h : Seen stage start table) (column : Column)
    (text : String) :
    Leads stage page start (table.cellsContaining column text) fun handles run =>
      PlacedAll stage run handles :=
  .bind (.lift _) fun _ _ h_follows _ => items_leads h_calm (h_follows.seen h) _

theorem columnCell_leads (h_calm : stage.Calm) (h : Seen stage start table) (column : Column)
    (row : Nat) :
    Leads stage page start (table.columnCell column row) fun handle run =>
      Placed stage run handle.own handle.ancestors := by
  rw [columnCell]
  split
  · exact .throw_bind _ _
  · exact .bind (.lift _) fun _ _ h_follows _ => item_leads h_calm (h_follows.seen h) _

end Table

/-- The operations on a table that click nothing. -/
def TableOperation.isRead : TableOperation → Bool
  | clickColumn _ => false
  | _ => true

/-- An operation on a table that clicks nothing leaves the nodes as they are. -/
theorem TableOperation.keeps (h_calm : stage.Calm) {table : Table} (h : Seen stage start table)
    (operation : TableOperation) (h_read : operation.isRead = true) :
    Keeps ⟨Browser.driver, page⟩ (Follows stage start) (operation.action table) := by
  have h_gives : ∀ {α β : Type} {action : Action Browser α} {post : α → Run Browser → Prop}
      (give : α → β), Leads stage page start action post →
      Keeps ⟨Browser.driver, page⟩ (Follows stage start) (do return give (← action)) :=
    fun give h_leads => .bind h_leads.keeps fun _ => .pure _
  cases operation with
  | clickColumn column => cases h_read
  | root => exact .pure _
  | item xpath => exact h_gives _ (Table.item_leads h_calm h xpath)
  | items xpath => exact h_gives _ (Table.items_leads h_calm h xpath)
  | cellElement row column => exact h_gives _ (Table.cellElement_leads h_calm h row column)
  | cell row column => exact h_gives _ (Table.cell_leads h_calm h row column)
  | rowValues row => exact h_gives _ (Table.valuesAt_leads h_calm h _ row)
  | headerValues row => exact h_gives _ (Table.valuesAt_leads h_calm h _ row)
  | columnValues column => exact h_gives _ (Table.columnValues_leads h_calm h column)
  | valuesOf column => exact h_gives _ (Table.valuesOf_leads h_calm h column)
  | indexByValue column value => exact h_gives _ (Table.indexByValue_leads h_calm h column value)
  | rowByValue column value => exact h_gives _ (Table.rowByValue_leads h_calm h column value)
  | cellsContaining column text =>
    exact h_gives _ (Table.cellsContaining_leads h_calm h column text)
  | columnCell column row => exact h_gives _ (Table.columnCell_leads h_calm h column row)

-- ============================================================================
-- Lookups of tables
-- ============================================================================

/-- The page may remember tables; no handle is looked up by them. -/
theorem Follows.of_remember_table (h : Settled stage run) (key : String) (table : Table) :
    Follows stage run { run with memory :=
      { run.memory with cache := run.memory.cache.put key (.table table) } } := by
  refine .of_memory h fun other resolved h_find => ?_
  by_cases h_key : key = other
  · subst h_key
    rw [Keyed.find?_put_self] at h_find
    cases h_find
  · rwa [Keyed.find?_put_of_ne h_key] at h_find

namespace Page

variable {got : List Table}

theorem cachedTable?_known (key : String) :
    Triple ⟨Browser.driver, page⟩
      (fun run => Follows stage start run ∧ run.RemembersOnly got) (cachedTable? key)
      (fun found run => Follows stage start run ∧ ∀ table ∈ found, table ∈ got)
      (fun _ => Follows stage start) := by
  intro run ⟨h_follows, h_known⟩
  refine ⟨h_follows, ?_⟩
  show ∀ table, _ = some table → table ∈ got
  split
  · rename_i table h_find
    intro other h_other
    obtain rfl := Option.some.inj h_other
    exact h_known key table h_find
  · exact fun _ h_none => nomatch h_none

theorem rememberTable_leads (key : String) {table : Table} (h : Seen stage start table) :
    Leads stage page start (remember key (.table table)) fun _ run => Seen stage run table := by
  intro run h_follows
  have h_kept := h_follows.trans (.of_remember_table h_follows.settled key table)
  exact ⟨h_kept, h_kept.seen h⟩

/-- A table that is remembered has been seen, and one that is not is read from the page. -/
theorem rememberedTable_leads (h_calm : stage.Calm) {key : String} {load : Action Browser Table}
    (h_seen : ∀ table ∈ got, Seen stage start table)
    (h_load : Leads stage page start load fun table run => Seen stage run table) :
    Triple ⟨Browser.driver, page⟩
      (fun run => Follows stage start run ∧ run.RemembersOnly got)
      (rememberedTable key load) (fun table run => Follows stage start run ∧ Seen stage run table)
      (fun _ => Follows stage start) := by
  have h_opened : Keeps (W := Browser) ⟨Browser.driver, page⟩
      (fun run => Follows stage start run ∧ run.RemembersOnly got) checkOpened :=
    checkOpened_keeps fun run h_run =>
      ⟨h_run.1.trans (.exchange h_run.1.settled h_calm rfl), h_run.2⟩
  have h_new : Leads stage page start (do
      let table ← load
      remember key (.table table)
      return table) fun table run => Seen stage run table :=
    .bind h_load fun _ _ _ h_table => .bind (rememberTable_leads key h_table)
      fun _ _ _ h_kept => .pure fun _ h_last => h_last.seen h_kept
  refine Triple.bind
    (h_opened.weaken (fun _ h_run => h_run) (fun _ _ h_run => h_run) fun _ _ h_run => h_run.1)
    fun _ => (cachedTable?_known key).bind fun found run h_run => ?_
  obtain ⟨h_follows, h_found⟩ := h_run
  cases found with
  | some table => exact ⟨h_follows, h_follows.seen (h_seen table (h_found table rfl))⟩
  | none => exact h_new run h_follows

theorem table_leads (h_calm : stage.Calm) (h_seen : ∀ table ∈ got, Seen stage start table)
    (slot : String) :
    Triple ⟨Browser.driver, page⟩
      (fun run => Follows stage start run ∧ run.RemembersOnly got)
      (table slot) (fun table run => Follows stage start run ∧ Seen stage run table)
      (fun _ => Follows stage start) := by
  refine rememberedTable_leads h_calm h_seen ?_
  refine .bind (.of_keeps (Steady.declared _ _ _)) fun spec _ _ _ => ?_
  exact .bind (.of_keeps .read) fun context _ _ _ => Table.load_leads h_calm slot spec _

theorem nestedTable_leads (h_calm : stage.Calm) (h_seen : ∀ table ∈ got, Seen stage start table)
    (slot : String) (index : Nat) :
    Triple ⟨Browser.driver, page⟩
      (fun run => Follows stage start run ∧ run.RemembersOnly got)
      (nestedTable slot index) (fun table run => Follows stage start run ∧ Seen stage run table)
      (fun _ => Follows stage start) := by
  refine rememberedTable_leads h_calm h_seen ?_
  refine .bind (.of_keeps (Steady.declared _ _ _)) fun spec _ _ _ => ?_
  refine .bind (.of_keeps .read) fun context _ _ _ => ?_
  dsimp only
  split
  · exact .throw _
  · exact Table.load_leads h_calm _ spec.spec _

end Page

-- ============================================================================
-- Whole tests
-- ============================================================================

/-- The table that a lookup has given. -/
def shown : Except PageError Table × Run Browser → List Table
  | (.ok table, _) => [table]
  | (.error _, _) => []

/-- The states of a test that looks at the tables of a page, with the tables that it has got. -/
inductive Viewing (stage : Browser) (page : Page) : List Table → Run Browser → Prop
  | look {hands : List (Handle × String)} {run : Run Browser} :
      Looking stage page hands run → Viewing stage page [] run
  | change {tables : List Table} {run : Run Browser} (change : Change) :
      Viewing stage page tables run → change.isApart = true →
      Viewing stage page tables { run with world := run.world.apply change }
  | visit {tables : List Table} {run : Run Browser} (pattern : Option String)
      (params : List (String × String)) : Viewing stage page tables run →
      Viewing stage page tables (Page.visit pattern params ⟨Browser.driver, page⟩ run).2
  | redirect {tables : List Table} {run : Run Browser} (url : String) :
      Viewing stage page tables run →
      Viewing stage page tables (Page.redirect url ⟨Browser.driver, page⟩ run).2
  | table {tables : List Table} {run : Run Browser} (slot : String) :
      Viewing stage page tables run →
      Viewing stage page (shown (Page.table slot ⟨Browser.driver, page⟩ run) ++ tables)
        (Page.table slot ⟨Browser.driver, page⟩ run).2
  | nestedTable {tables : List Table} {run : Run Browser} (slot : String) (index : Nat) :
      Viewing stage page tables run →
      Viewing stage page (shown (Page.nestedTable slot index ⟨Browser.driver, page⟩ run) ++ tables)
        (Page.nestedTable slot index ⟨Browser.driver, page⟩ run).2
  | read {tables : List Table} {run : Run Browser} {table : Table} (operation : TableOperation) :
      Viewing stage page tables run → table ∈ tables → operation.isRead = true →
      Viewing stage page tables (operation.action table ⟨Browser.driver, page⟩ run).2

/-- The nodes are those of the stage, and all tables of a list are seen. -/
structure InView (stage : Browser) (tables : List Table) (run : Run Browser) : Prop where
  settled : Settled stage run
  seen : ∀ table ∈ tables, Seen stage run table

namespace InView

variable {tables : List Table}

theorem follow (h : InView stage tables run) (h_follows : Follows stage run run') :
    InView stage tables run' :=
  ⟨h_follows.settled, fun table h_mem => h_follows.seen (h.seen table h_mem)⟩

theorem of_keeps {α : Type} {action : Action Browser α} (h : InView stage tables run)
    (h_keeps : Keeps ⟨Browser.driver, page⟩ (Follows stage run) action) :
    InView stage tables (action ⟨Browser.driver, page⟩ run).2 :=
  h.follow (Keeps.iff.mp h_keeps run (.refl h.settled))

/-- The table that a lookup gives comes to the others. -/
theorem of_lookup {action : Action Browser Table} (h : InView stage tables run)
    (h_known : run.RemembersOnly tables)
    (h_lookup : Triple ⟨Browser.driver, page⟩
      (fun found => Follows stage run found ∧ found.RemembersOnly tables) action
      (fun table found => Follows stage run found ∧ Seen stage found table)
      (fun _ => Follows stage run)) :
    InView stage (shown (action ⟨Browser.driver, page⟩ run) ++ tables)
      (action ⟨Browser.driver, page⟩ run).2 := by
  have h_end := h_lookup run ⟨.refl h.settled, h_known⟩
  rcases h_action : action ⟨Browser.driver, page⟩ run with ⟨e | table, run'⟩
  · rw [h_action] at h_end
    exact h.follow h_end
  · rw [h_action] at h_end
    obtain ⟨h_follows, h_seen⟩ := h_end
    exact ⟨h_follows.settled, List.forall_mem_cons.mpr ⟨h_seen, (h.follow h_follows).seen⟩⟩

end InView

/-- The table that a lookup gives is the only one that may come to those remembered. -/
theorem Run.RemembersOnly.of_lookup {tables : List Table} {action : Action Browser Table}
    (h : run.RemembersOnly tables)
    (h_lookup : Triple ⟨Browser.driver, page⟩ (Run.RemembersOnly tables) action
      (fun table => Run.RemembersOnly (table :: tables)) fun _ => Run.RemembersOnly tables) :
    (action ⟨Browser.driver, page⟩ run).2.RemembersOnly
      (shown (action ⟨Browser.driver, page⟩ run) ++ tables) := by
  have h_end := h_lookup run h
  rcases h_action : action ⟨Browser.driver, page⟩ run with ⟨e | table, run'⟩ <;>
    rwa [h_action] at h_end

/-- The page remembers no table but those that the test has got. -/
theorem Viewing.remembersOnly {tables : List Table} (h : Viewing stage page tables run) :
    run.RemembersOnly tables := by
  have h_inv := Run.remembersOnly_steadfast ⟨Browser.driver, page⟩
  induction h with
  | look h_looking => exact h_looking.remembersOnly
  | change _ _ _ ih => exact ih
  | visit pattern params _ ih => exact Keeps.iff.mp ((h_inv _).visit pattern params) _ ih
  | redirect url _ ih => exact Keeps.iff.mp ((h_inv _).redirect url) _ ih
  | table slot _ ih => exact ih.of_lookup (Page.table_remembers slot)
  | nestedTable slot index _ ih => exact ih.of_lookup (Page.nestedTable_remembers slot index)
  | read operation _ _ _ ih =>
    exact Keeps.iff.mp ((h_inv _).workable.tableOperation trivial operation).keeps _ ih

/-- Every table that a test has got is seen, whatever came since. -/
theorem Viewing.inView {tables : List Table} (h_calm : stage.Calm)
    (h : Viewing stage page tables run) : InView stage tables run := by
  induction h with
  | look h_looking => exact ⟨(h_looking.inPlace h_calm).settled, fun _ h_mem => nomatch h_mem⟩
  | change change _ h_change ih =>
    exact ih.follow (.of_world ih.settled (ih.settled.shows.apply h_change))
  | visit pattern params _ ih => exact ih.of_keeps ((Follows.lasting h_calm).visit pattern params)
  | redirect url _ ih => exact ih.of_keeps ((Follows.lasting h_calm).redirect url)
  | table slot h_viewing ih =>
    exact ih.of_lookup h_viewing.remembersOnly (Page.table_leads h_calm ih.seen slot)
  | nestedTable slot index h_viewing ih =>
    exact ih.of_lookup h_viewing.remembersOnly
      (Page.nestedTable_leads h_calm ih.seen slot index)
  | read operation _ h_mem h_read ih =>
    exact ih.of_keeps (operation.keeps h_calm (ih.seen _ h_mem) h_read)

/-- A table that a test gets, known by a property of it, and the state of the test after the page
    was rendered anew. -/
theorem Viewing.rerendered (h : Viewing stage page [] run) (slot : String) (p : Table → Bool)
    (h_table : (Page.table slot ⟨Browser.driver, page⟩ run).1.toOption.any p = true) :
    ∃ (table : Table) (run' : Run Browser), Viewing stage page [table] run' ∧ p table = true
      ∧ run'.world.rendering
        = (Page.table slot ⟨Browser.driver, page⟩ run).2.world.rendering + 1 := by
  have h_viewing := (h.table slot).change .rerender rfl
  rcases h_lookup : Page.table slot ⟨Browser.driver, page⟩ run with ⟨e | table, run'⟩
  · rw [h_lookup] at h_table
    cases h_table
  · rw [h_lookup] at h_table h_viewing
    exact ⟨table, _, h_viewing, h_table, rfl⟩

end PageObjects
