/-
  PageObjects.Proofs.Table.Clicking

  The header cell that a click on a column reaches. The index of a header tells a column
  from its cell; a click looks for the cell by the xpath of the column and takes the
  first that is found. `Run.clicked` is what the browser was asked to click and did.

    * `Run.Clickless.clicked_eq`: only a call to click counts.
    * `Handle.clickAndWait_clicked`: a click through a handle clicks its node once,
      also when the handle had gone stale.
    * `Table.clickColumn_clicked`: a click on a column clicks the first node that the
      xpath of the column finds.
    * `Table.clickColumn_reaches_iff`: when that is the cell with the index of the column.
-/

import PageObjects.Proofs.Recovery.Abiding
import PageObjects.Proofs.Recovery.Clicks
import PageObjects.Proofs.Table.Access
import PageObjects.Proofs.Table.Loading
import PageObjects.Proofs.Table.Places

namespace PageObjects

open PageObjects.Action
open Markup (Element)

variable {W : Type} {context : Context W}

-- ============================================================================
-- Clicks in a run
-- ============================================================================

/-- The node that was clicked, where a click was made and met no fault. -/
def Exchange.clicked? : Exchange → Option String
  | ⟨.element reference .click, .ok _, _⟩ => some reference.node
  | _ => none

/-- The nodes that were clicked in a run, the latest first. -/
def Run.clicked (run : Run W) : List String :=
  run.transcript.filterMap Exchange.clicked?

theorem Exchange.clicked?_of_isClick_eq_false {exchange : Exchange}
    (h : exchange.isClick = false) : exchange.clicked? = none := by
  rw [clicked?.eq_def]
  split
  · cases h
  · rfl

/-- Only a call to click counts. -/
theorem Run.Clickless.clicked_eq {start run : Run W} (h : start.Clickless run) :
    run.clicked = start.clicked := by
  obtain ⟨made, h_made, h_none⟩ := h
  have h_nil : made.filterMap Exchange.clicked? = [] := by
    rw [List.filterMap_eq_nil_iff]
    exact fun exchange h_mem => Exchange.clicked?_of_isClick_eq_false (h_none exchange h_mem)
  rw [clicked, h_made, List.filterMap_append, h_nil, List.nil_append, clicked]

variable {stage : Browser} {page : Page} {run : Run Browser} {handle : Handle} {node : String}

namespace Handle

-- ============================================================================
-- Clicks through a handle
-- ============================================================================

/-- Finding a handle again clicks nothing. -/
theorem reload_clickless (start : Run Browser) (handle : Handle) :
    Keeps ⟨Browser.driver, page⟩ start.Clickless
      (handle.reload (requery handle.own handle.ancestors)) := by
  have h_steady : Steady ⟨Browser.driver, page⟩ start.Clickless := Run.clickless_steady _ start
  have h_free : ∀ link : Link, link.Free start.Clickless :=
    fun _ => ⟨fun _ _ h_run => h_run, fun _ _ _ _ h_run => h_run⟩
  have h_requery : Keeps ⟨Browser.driver, page⟩ start.Clickless
      (requery handle.own handle.ancestors) := by
    cases handle.ancestors with
    | nil => exact Steady.refind _ (h_steady.sessionCall _ _ rfl) (h_steady.sessionCall _ _ rfl)
    | cons parent rest =>
      exact Steady.refind _
        (h_steady.request _ (fun _ => h_steady.ask rfl rfl) fun link _ => h_free link)
        (h_steady.request _ (fun _ => h_steady.ask rfl rfl) fun link _ => h_free link)
  exact .bind (Steady.requirePage _) fun _ => .bind h_requery fun reference =>
    .bind (.modify ((h_free handle.own).reference reference)) fun _ =>
      Steady.memoize (h_free handle.own)

/-- A click on a reference of the present rendering is made, and one on a stale reference is not. -/
theorem exchange_click (h : run.world.Calm) (reference : Reference) :
    ∃ answer run', run.exchange Browser.driver (.element reference .click) = (answer, run') ∧
      if reference.rendering = run.world.rendering
      then answer = .ok () ∧ run'.clicked = reference.node :: run.clicked
      else answer = .error .stale ∧ run'.clicked = run.clicked
        ∧ ∃ transcript, run' = { run with transcript } := by
  have h_exchange : run.exchange Browser.driver (.element reference .click)
      = ((run.world.elementAnswer reference .click).1, { run with
          world := (run.world.elementAnswer reference .click).2
          transcript := ⟨.element reference .click, (run.world.elementAnswer reference .click).1,
            run.memory⟩ :: run.transcript }) := rfl
  have h_reach := h.reach_eq reference
  by_cases h_live : reference.rendering = run.world.rendering
  · rw [if_pos h_live] at h_reach
    obtain ⟨world, h_answer⟩ :
        ∃ world, run.world.elementAnswer reference .click = (.ok (), world) := by
      simp only [Browser.elementAnswer, h_reach, Browser.nodeAnswer, Prod.mk.injEq, true_and,
        exists_eq']
    rw [h_answer] at h_exchange
    exact ⟨_, _, h_exchange, by rw [if_pos h_live]; exact ⟨rfl, rfl⟩⟩
  · rw [if_neg h_live] at h_reach
    have h_answer : run.world.elementAnswer reference .click = (.error .stale, run.world) := by
      simp only [Browser.elementAnswer, h_reach]
    rw [h_answer] at h_exchange
    exact ⟨_, _, h_exchange, by rw [if_neg h_live]; exact ⟨rfl, rfl, _, rfl⟩⟩

/-- A call to click clicks the node of the handle once, be its reference stale or not. -/
theorem perform_click (h_calm : stage.Calm) (h : Settled stage run)
    (h_handle : Names stage run handle node) :
    ∃ run', handle.perform .click ⟨Browser.driver, page⟩ run = (.ok (), run')
      ∧ run'.clicked = node :: run.clicked := by
  obtain ⟨h_placed, h_node⟩ := h_handle
  obtain ⟨own, ancestors⟩ := handle
  obtain ⟨answer, asked, h_asked, h_outcome⟩ :=
    exchange_click (h.shows.calm h_calm) (run.referenceAt own.id)
  rw [perform, request_eq]
  by_cases h_live : (run.referenceAt own.id).rendering = run.world.rendering
  · rw [if_pos h_live] at h_outcome
    obtain ⟨rfl, h_clicked⟩ := h_outcome
    have h_ne : (.ok () : Except Fault Unit) ≠ .error .stale := by
      intro h_eq
      cases h_eq
    have h_run : recovering ⟨own, ancestors⟩ (requery own ancestors) "click" .click
        ⟨Browser.driver, page⟩ run
          = ((.ok () : Except Fault Unit).mapError fun fault => .ofFault fault own.context "click",
            asked) :=
      run_recovering_of_ne_stale h_asked h_ne
    refine ⟨asked, h_run, ?_⟩
    rw [h_clicked, ← h_node]
    rfl
  · rw [if_neg h_live] at h_outcome
    obtain ⟨rfl, h_clicked, transcript, rfl⟩ := h_outcome
    have h_follows : Follows stage run { run with transcript } := .of_world h h.shows
    have h_requery : Gives stage page _ (requery own ancestors) _ :=
      requery_settled h_calm h_follows.settled (h_follows.placed h_placed)
    obtain ⟨found, h_reload, h_found, h_follows', h_rendering⟩ :=
      reload_settled h_follows.settled (h_follows.placed h_placed) rfl h_requery
    have h_kept : Run.Clickless { run with transcript } (reload ⟨own, ancestors⟩
        (requery own ancestors) ⟨Browser.driver, page⟩ { run with transcript }).2 :=
      Run.clickless_of_keeps (fun start => reload_clickless start ⟨own, ancestors⟩) _
    rw [h_reload] at h_kept
    -- the reference is of the present rendering now, so that the second call is made
    have h_fresh : found.referenceAt own.id = ⟨node, run.world.rendering⟩ := by
      rw [Run.referenceAt, h_found, Option.getD_some, ← h_node]
      rfl
    obtain ⟨answer, again, h_again, h_outcome⟩ :=
      exchange_click (h_follows'.settled.shows.calm h_calm) (found.referenceAt own.id)
    rw [if_pos (by rw [h_fresh]; exact h_rendering.symm)] at h_outcome
    obtain ⟨rfl, h_clicked'⟩ := h_outcome
    refine ⟨again, ?_, ?_⟩
    · rw [run_recovering_of_stale h_asked h_reload, h_again]
      rfl
    · rw [h_clicked', h_fresh, h_kept.clicked_eq, h_clicked]

end Handle

/-- The node is displayed and enabled. -/
def Browser.CanClick (stage : Browser) (node : String) : Prop :=
  (stage.node node).isDisplayed = true ∧ (stage.node node).isEnabled = true

instance (stage : Browser) (node : String) : Decidable (stage.CanClick node) :=
  inferInstanceAs (Decidable (_ ∧ _))

/-- A wait comes to its end with the first poll if that says yes. -/
theorem Action.run_wait_of_yes {options : WaitOptions} {waitedFor : String}
    {predicate : Action W Bool} {run run' : Run W} (h : predicate context run = (.ok true, run')) :
    wait options waitedFor predicate context run = (.ok (), run') := by
  simp only [wait, Wait.yes, Wait.yes?, Wait.poll, Wait.pollOnce, h, Wait.judge, Option.getD_some]
  rfl

namespace Handle

theorem waitClickable_gives (h_calm : stage.Calm) (h : Settled stage run)
    (h_handle : Names stage run handle node) (h_can : stage.CanClick node) :
    Gives stage page run handle.waitClickable (.ok ()) := by
  obtain ⟨h_placed, rfl⟩ := h_handle
  have h_displayed : Gives stage page run handle.isDisplayed (.ok true) := by
    have h_gives : Gives stage page run handle.isDisplayed
        (.ok (stage.node (run.nodeAt handle.own.id)).isDisplayed) :=
      request_settled "is_displayed" .isDisplayed h_calm h h_placed rfl
    rwa [h_can.1] at h_gives
  have h_predicate : Gives stage page run handle.isClickable (.ok true) := by
    refine h_displayed.bind_ok fun run' h_follows _ => ?_
    have h_enabled : Gives stage page run' handle.isEnabled
        (.ok (stage.node (run'.nodeAt handle.own.id)).isEnabled) :=
      request_settled "is_enabled" .isEnabled h_calm h_follows.settled (h_follows.placed h_placed)
        rfl
    rwa [h_follows.nodeAt_eq _ h_placed.id_lt, h_can.2] at h_enabled
  obtain ⟨run', h_run, h_follows, h_rendering⟩ := h_predicate
  refine ⟨run', ?_, h_follows, h_rendering⟩
  rw [waitClickable, run_bind_ok (Link.run_requirePage handle.own h.present)]
  exact run_wait_of_yes h_run

/-- A click through a handle clicks its node once; what is done behind it clicks nothing more. -/
theorem clickAndWait_clicked (h_calm : stage.Calm) (h : Settled stage run)
    (h_handle : Names stage run handle node) (h_can : stage.CanClick node) :
    (handle.clickAndWait true ⟨Browser.driver, page⟩ run).2.clicked = node :: run.clicked := by
  have h_wait : Gives stage page run handle.waitClickable (.ok ()) :=
    waitClickable_gives h_calm h h_handle h_can
  obtain ⟨waited, h_waited, h_follows, -⟩ := h_wait
  have h_kept : run.Clickless (handle.waitClickable ⟨Browser.driver, page⟩ run).2 :=
    Run.clickless_of_keeps (fun start => waitClickable_clickless start handle) run
  rw [h_waited] at h_kept
  have h_performed : ∃ run', handle.perform .click ⟨Browser.driver, page⟩ waited = (.ok (), run')
      ∧ run'.clicked = node :: waited.clicked :=
    perform_click h_calm h_follows.settled (h_follows.names h_handle)
  obtain ⟨asked, h_click, h_clicked⟩ := h_performed
  have h_behind : asked.Clickless ((do
      handle.followTab true; handle.own.requirePage; Page.waitLoaders : Action Browser Unit)
        ⟨Browser.driver, page⟩ asked).2 :=
    Run.clickless_of_keeps (fun start => followTab_waitLoaders_clickless start handle true) asked
  rw [clickAndWait_eq, run_bind_ok h_waited, run_bind_ok h_click, h_behind.clicked_eq, h_clicked,
    h_kept.clicked_eq]

end Handle

-- ============================================================================
-- Clicks on a column
-- ============================================================================

namespace Table

variable {table : Table} {root : String}

theorem item_clickless (start : Run Browser) (table : Table) (xpath : String) :
    Keeps ⟨Browser.driver, page⟩ start.Clickless (table.item xpath) := by
  have h_free : table.root.Free start.Clickless :=
    fun _ _ => ⟨fun _ _ h_run => h_run, fun _ _ _ _ h_run => h_run⟩
  refine .tryCatch ((Run.clickless_steady _ start).find h_free _).keeps fun e => ?_
  split
  · exact .throw _
  · exact .throw _

/-- A click on a column clicks the first node that the xpath of the column finds. -/
theorem clickColumn_clicked (h_calm : stage.Calm) (h : Settled stage run)
    (h_root : Names stage run table.root root) (column : Column)
    (h_can : ∀ node ∈ stage.below root (table.rootXPath ++ column.relativeXPath),
      stage.CanClick node) :
    (table.clickColumn column ⟨Browser.driver, page⟩ run).2.clicked
      = (stage.below root (table.rootXPath ++ column.relativeXPath)).head?.toList
        ++ run.clicked := by
  have h_kept : run.Clickless (table.item column.relativeXPath ⟨Browser.driver, page⟩ run).2 :=
    Run.clickless_of_keeps (fun start => item_clickless start table column.relativeXPath) run
  cases h_first : (stage.below root (table.rootXPath ++ column.relativeXPath)).head? with
  | none =>
    have h_none : Leads stage page run (table.item column.relativeXPath) fun _ _ => False := by
      refine .tryCatch ((Handle.find_names h_calm h_root _).weaken fun _ _ h_found => ?_)
        fun e => ?_
      · obtain ⟨node, h_node, -⟩ := h_found
        rw [h_first] at h_node
        cases h_node
      · split
        · exact .throw _
        · exact .throw _
    have h_end := h_none run (.refl h)
    rw [clickColumn, run_bind]
    rcases h_item : table.item column.relativeXPath ⟨Browser.driver, page⟩ run
      with ⟨e | handle, run'⟩
    · rw [h_item] at h_kept
      exact h_kept.clicked_eq
    · rw [h_item] at h_end
      exact h_end.2.elim
  | some node =>
    have h_item : Succeeds stage page run (table.item column.relativeXPath) fun handle run' =>
        Names stage run' handle node :=
      (Handle.find_succeeds h_calm h h_root h_first).tryCatch _
    obtain ⟨handle, run', h_run, h_follows, h_handle⟩ := h_item
    rw [h_run] at h_kept
    rw [clickColumn, run_bind_ok h_run,
      Handle.clickAndWait_clicked h_calm h_follows.settled h_handle
        (h_can node (List.mem_of_head? h_first)), h_kept.clicked_eq]
    rfl

end Table

-- ============================================================================
-- The cell with the index
-- ============================================================================

/-- The page has a node for each of some header cells, and the xpath of a column finds below the
    root of a table the nodes of the cells that it selects, in document order, and after them only
    nodes outside of the header. -/
structure Browser.ShowsHeader (stage : Browser) (root path : String) (column : Column)
    (cells : List Element) (nodes : List String) : Prop where
  length_eq : nodes.length = cells.length
  nodup : nodes.Nodup
  below : ∃ outside, (∀ node ∈ outside, node ∉ nodes) ∧ stage.below root path
    = ((cells.zip nodes).filter fun shown => column.selects shown.1).map (·.2) ++ outside

theorem exists_split_of_length {α β : Type} {names : List β} {before after : List α} {a : α}
    (h : names.length = (before ++ a :: after).length) :
    ∃ named name rest, names = named ++ name :: rest ∧ named.length = before.length
      ∧ rest.length = after.length := by
  rw [List.length_append, List.length_cons] at h
  have h_lt : before.length < names.length := by omega
  refine ⟨names.take before.length, names[before.length], names.drop (before.length + 1),
    ?_, ?_, ?_⟩
  · rw [← List.drop_eq_getElem_cons h_lt, List.take_append_drop]
  · rw [List.length_take]
    omega
  · rw [List.length_drop]
    omega

/-- Among items with distinct names the first that is chosen has a certain name exactly if the item
    with this name is chosen and none before it is. -/
theorem head?_chosen_iff {α : Type} (chosen : α → Bool) {before after : List (α × String)} {a : α}
    {name : String} {outside : List String}
    (h_nodup : ((before ++ (a, name) :: after).map (·.2)).Nodup)
    (h_outside : ∀ other ∈ outside, other ∉ (before ++ (a, name) :: after).map (·.2)) :
    ((((before ++ (a, name) :: after).filter fun item => chosen item.1).map (·.2))
        ++ outside).head? = some name ↔
      chosen a = true ∧ ∀ item ∈ before, chosen item.1 = false := by
  rw [List.map_append, List.map_cons] at h_nodup h_outside
  obtain ⟨-, h_tail, h_apart⟩ := List.nodup_append.1 h_nodup
  rw [List.filter_append, List.map_append, List.append_assoc]
  cases h_chosen : before.filter fun item => chosen item.1 with
  | cons item rest =>
    -- an item before is chosen, and its name is another one
    obtain ⟨h_item, h_is⟩ := List.mem_filter.1 (h_chosen ▸ List.mem_cons_self :
      item ∈ before.filter fun item => chosen item.1)
    have h_ne : item.2 ≠ name :=
      h_apart _ (List.mem_map_of_mem h_item) _ List.mem_cons_self
    refine iff_of_false (fun h_head => h_ne (Option.some.inj h_head)) fun h_none => ?_
    rw [h_none.2 item h_item] at h_is
    cases h_is
  | nil =>
    have h_none : ∀ item ∈ before, chosen item.1 = false := fun item h_item =>
      Bool.eq_false_iff.2 (List.filter_eq_nil_iff.1 h_chosen item h_item)
    rw [List.map_nil, List.nil_append]
    cases h_a : chosen a with
    | true =>
      rw [List.filter_cons, if_pos h_a]
      exact iff_of_true rfl ⟨rfl, h_none⟩
    | false =>
      rw [List.filter_cons, if_neg (Bool.eq_false_iff.1 h_a)]
      refine iff_of_false (fun h_head => ?_) fun h_both => Bool.false_ne_true h_both.1
      rcases List.mem_append.1 (List.mem_of_head? h_head) with h_mem | h_mem
      · obtain ⟨item, h_item, h_name⟩ := List.mem_map.1 h_mem
        have h_after : item.2 ∈ after.map (·.2) :=
          List.mem_map_of_mem (List.mem_filter.1 h_item).1
        rw [h_name] at h_after
        exact (List.nodup_cons.1 h_tail).1 h_after
      · exact h_outside name h_mem (List.mem_append_right _ List.mem_cons_self)

/-- The cell with the index of a column has what the column is searched by; only the key of the
    texts is no attribute alone. -/
def Column.Describes (column : Column) (cell : Element) : Prop :=
  match column.search with
  | .visibleName => Header.visibleText cell.text = column.visibleName
      ∨ cell.attribute? Header.defaultTextKey = some column.visibleName
  | .byAttribute name value => cell.attribute? name = some value
      ∨ name = Header.defaultTextKey ∧ Header.visibleText cell.text = value

namespace Table

variable {table : Table}

/-- The index of a column is the position of a cell that the column describes. -/
theorem exists_cell_of_columnIndex {markup : String} {tracked : List String} {column : Column}
    {position : Nat}
    (h_header : Header.parse markup Header.defaultTextKey tracked = .ok table.header)
    (h_index : table.columnIndex column = .ok position) :
    ∃ cell, Header.IsCellOf (Header.columnCells (Markup.parse markup)) position cell
      ∧ column.Describes cell := by
  have h_records := Header.parse_records h_header
  have h_position := columnIndex_eq_ok_iff.1 h_index
  obtain ⟨visibleName, search⟩ := column
  cases search with
  | visibleName =>
    dsimp only at h_position
    rw [Header.byText?, h_records.textKey_eq, h_records.position?_eq,
      Header.lastPosition?_eq_some_iff] at h_position
    obtain ⟨⟨cell, h_cell, h_bears⟩, -⟩ := h_position
    rw [Header.bears_iff (Header.soundAttributes_of_mem_columnCells h_cell.mem)] at h_bears
    exact ⟨cell, h_cell, h_bears.imp (·.2) (·.2.2)⟩
  | byAttribute name value =>
    dsimp only at h_position
    rw [h_records.position?_eq, Header.lastPosition?_eq_some_iff] at h_position
    obtain ⟨⟨cell, h_cell, h_bears⟩, -⟩ := h_position
    rw [Header.bears_iff (Header.soundAttributes_of_mem_columnCells h_cell.mem)] at h_bears
    exact ⟨cell, h_cell, h_bears.symm.imp_left (·.2.2)⟩

variable {markup root : String} {tables : List Table} {column : Column} {nodes : List String}
  {position : Nat}

/-- However a test has come to a table: the cell with the index of a column stands somewhere among
    the header cells, and a click on the column reaches it exactly if the xpath of the column
    selects it and none of the header cells before it. A cell that has the attribute of the column
    is selected; a cell that has its name as a text is selected exactly if a text is a child of it
    and no line break stands inside of the text. -/
theorem clickColumn_reaches_iff (h_calm : stage.Calm)
    (h_viewing : Viewing stage page tables run) (h_mem : table ∈ tables)
    (h_root : (stage.namesIn (.xpath table.rootXPath)).head? = some root)
    (h_markup : stage.headerMarkup? table.rootXPath = some markup)
    (h_shows : stage.ShowsHeader root (table.rootXPath ++ column.relativeXPath) column
      (Markup.taggedAll Header.cellTag (Markup.parse markup)) nodes)
    (h_can : ∀ node ∈ stage.below root (table.rootXPath ++ column.relativeXPath),
      stage.CanClick node)
    (h_index : table.columnIndex column = .ok position) :
    ∃ before cell after node,
      Header.places (Markup.parse markup) = before ++ (cell, true) :: after
      ∧ Header.isGenuine cell = true ∧ position = before.countP Header.isColumn + 1
      ∧ nodes[before.length]? = some node ∧ column.Describes cell
      ∧ ((table.clickColumn column ⟨Browser.driver, page⟩ run).2.clicked = node :: run.clicked ↔
        column.selects cell = true ∧ ∀ place ∈ before, column.selects place.1 = false)
      ∧ (∀ name value, column.search = .byAttribute name value →
        cell.attribute? name = some value → column.selects cell = true)
      ∧ (column.search = .visibleName → Header.visibleText cell.text = column.visibleName →
        (column.selects cell = true ↔ cell.firstText?.isSome = true
          ∧ '\n' ∉ Text.trimBlanks (cell.text.getD "").toList)) := by
  obtain ⟨h_settled, h_all⟩ := h_viewing.inView h_calm
  have h_seen := h_all table h_mem
  have h_names := h_seen.names_root h_root
  obtain ⟨markup', tracked, h_markup', h_parse⟩ := h_seen.header
  obtain rfl : markup = markup' := Option.some.inj (h_markup.symm.trans h_markup')
  obtain ⟨cell, h_cell, h_describes⟩ := exists_cell_of_columnIndex h_parse h_index
  obtain ⟨before, after, h_places, h_genuine, h_position⟩ := Header.exists_place h_cell
  obtain ⟨h_length, h_nodup, outside, h_outside, h_below⟩ := h_shows
  rw [← Header.map_fst_places, h_places, List.map_append, List.map_cons] at h_length h_below
  obtain ⟨named, node, rest, rfl, h_named, h_rest⟩ := exists_split_of_length h_length
  rw [List.length_map] at h_named h_rest
  rw [List.zip_append (by rw [List.length_map, h_named]), List.zip_cons_cons] at h_below
  have h_names_eq :
      (((before.map (·.1)).zip named ++ (cell, node) :: (after.map (·.1)).zip rest).map (·.2))
        = named ++ node :: rest := by
    rw [List.map_append, List.map_cons, List.map_snd_zip (by simp [h_named]),
      List.map_snd_zip (by simp [h_rest])]
  have h_first :=
    head?_chosen_iff column.selects (h_names_eq ▸ h_nodup) (h_names_eq ▸ h_outside)
  rw [← h_below] at h_first
  have h_before : (∀ item ∈ (before.map (·.1)).zip named, column.selects item.1 = false) ↔
      ∀ place ∈ before, column.selects place.1 = false := by
    have h_cells : ((before.map (·.1)).zip named).map (·.1) = before.map (·.1) :=
      List.map_fst_zip (by simp [h_named])
    rw [← List.forall_mem_map (P := fun cell => column.selects cell = false), h_cells,
      List.forall_mem_map]
  refine ⟨before, cell, after, node, h_places, h_genuine, h_position, ?_, h_describes, ?_, ?_,
    Header.selects_of_visibleText (Header.textsApart_of_mem_columnCells h_cell.mem)⟩
  · rw [← h_named, List.getElem?_append_right (Nat.le_refl _), Nat.sub_self]
    rfl
  · rw [clickColumn_clicked h_calm h_settled h_names column h_can, ← h_before, ← h_first]
    cases (stage.below root (table.rootXPath ++ column.relativeXPath)).head? <;> simp
  · intro name value h_search h_attribute
    rw [Column.selects, h_search]
    exact decide_eq_true h_attribute

end Table

/-- A header where the name of the second column occurs in the first cell. -/
def ordersMarkup : String :=
  "<tr><th>Order Id</th><th>Id</th></tr>"

/-- A page that shows a table with this header. -/
def Browser.withOrderIds : Browser where
  nodes := [
    ("table", { children := [
      (Table.headerXPath, ["header"]),
      ("//p-table" ++ (Column.named "Id").relativeXPath, ["order-id", "id"])] }),
    ("header", { attributes := [("innerHTML", ordersMarkup)] })]
  document := [("//p-table", ["table"])]

/-- The column has the index of the second cell, and a click on it does not reach that cell. -/
theorem Table.clickColumn_reaches_orderId : ∃ table run,
    Viewing Browser.withOrderIds Page.withOrders [table] run
      ∧ table.columnIndex (.named "Id") = .ok 2
      ∧ (table.clickColumn (.named "Id") ⟨Browser.driver, Page.withOrders⟩ run).2.clicked
        ≠ "id" :: run.clicked := by
  have h_opened : Viewing Browser.withOrderIds Page.withOrders []
      (Page.visit none [] ⟨Browser.driver, Page.withOrders⟩ { world := Browser.withOrderIds }).2 :=
    .visit none [] (.look .start)
  obtain ⟨table, run, h_viewing, h_table, -⟩ :=
    h_opened.rerendered "orders"
      (fun table => table.rootXPath = "//p-table" ∧ table.columnIndex (.named "Id") = .ok 2)
      (by decide +kernel)
  obtain ⟨h_root, h_index⟩ := of_decide_eq_true h_table
  have h_selected : (Header.places (Markup.parse ordersMarkup)).map
      (fun place => (Column.named "Id").selects place.1) = [true, true] := by
    decide +kernel
  have h_below : Browser.withOrderIds.below "table"
      (table.rootXPath ++ (Column.named "Id").relativeXPath) = ["order-id", "id"] := by
    rw [h_root]
    decide +kernel
  have h_shows : Browser.withOrderIds.ShowsHeader "table"
      (table.rootXPath ++ (Column.named "Id").relativeXPath) (.named "Id")
      (Markup.taggedAll Header.cellTag (Markup.parse ordersMarkup)) ["order-id", "id"] :=
    ⟨by decide +kernel, by decide, [], fun _ h_none => (nomatch h_none),
      h_below.trans (by decide +kernel)⟩
  have h_first : (Browser.withOrderIds.namesIn (.xpath table.rootXPath)).head? = some "table" := by
    rw [h_root]
    decide
  have h_markup : Browser.withOrderIds.headerMarkup? table.rootXPath = some ordersMarkup := by
    rw [h_root]
    decide
  obtain ⟨before, cell, after, node, h_places, -, h_position, h_node, -, h_reaches, -⟩ :=
    Table.clickColumn_reaches_iff (Browser.calm_of_forall (by decide)) h_viewing List.mem_cons_self
      h_first h_markup h_shows (by rw [h_below]; decide) h_index
  refine ⟨table, run, h_viewing, h_index, fun h_clicked => ?_⟩
  rw [h_places, List.map_append, List.map_cons] at h_selected
  rcases before with - | ⟨first, - | ⟨second, rest⟩⟩
  · cases h_position
  · obtain rfl : "id" = node := Option.some.inj h_node
    -- the cell before has the name in its text
    have h_first := (h_reaches.1 h_clicked).2 first List.mem_cons_self
    rw [List.map_singleton, h_first] at h_selected
    cases h_selected
  · have h_length := congrArg List.length h_selected
    simp only [List.length_append, List.length_map, List.length_cons, List.length_nil] at h_length
    omega

end PageObjects
