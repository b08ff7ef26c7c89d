/-
  PageObjects.Proofs.Table.Loading

  The columns of a table that was loaded, and which of them are found by an attribute.
  The header is the markup that the browser gave last; it is read once, for the
  attributes that the declared columns are searched by, and whatever is asked of the
  table later, the answer is in that reading.

    * `Handle.perform_heard`: a call to an element that gives a result ends with the
      answer of the browser, also when the element had to be found again.
    * `Table.load_reads`: a table is the reading of the markup that was heard last.
    * `Table.columnIndex_byAttribute`: which attributes and values have a position.
-/

import PageObjects.Proofs.Recovery.Looking
import PageObjects.Proofs.Table.Indexing

namespace PageObjects

open PageObjects.Action

variable {W α β : Type} {context : Context W}

-- ============================================================================
-- What was heard last
-- ============================================================================

/-- Whatever the run was before: if the action gives a result, then one with `post`. -/
def Action.EndsIn (context : Context W) (action : Action W α) (post : α → Run W → Prop) : Prop :=
  Triple context (fun _ => True) action post fun _ _ => True

namespace Action

theorem EndsIn.triple {pre : Run W → Prop} {action : Action W α} {post : α → Run W → Prop}
    (h : EndsIn context action post) : Triple context pre action post fun _ _ => True :=
  h.weaken (fun _ _ => trivial) (fun _ _ h_post => h_post) fun _ _ _ => trivial

/-- The end of an action is the end of its last step. -/
theorem EndsIn.bind {x : Action W α} {f : α → Action W β} {post : β → Run W → Prop}
    (h : ∀ a, EndsIn context (f a) post) :
    EndsIn context (x >>= f) post := by
  intro run _
  rw [run_bind]
  rcases x context run with ⟨e | a, run'⟩
  · trivial
  · exact h a run' trivial

/-- A result that is there already leaves the run as it is. -/
theorem Triple.lift {pre : Run W → Prop} (result : Except PageError α) :
    Triple context pre (liftM result : Action W α) (fun a run => result = .ok a ∧ pre run)
      fun _ _ => True := by
  cases result with
  | ok a => exact .pure fun _ h_run => ⟨rfl, h_run⟩
  | error e => exact .throw fun _ _ => trivial

end Action

/-- The last call of the run was this one to an element, and it had this answer. -/
def Run.Heard (run : Run W) (call : ElementCall) (answer : Except Fault call.Answer) : Prop :=
  ∃ reference memory earlier, run.transcript = ⟨.element reference call, answer, memory⟩ :: earlier

/-- The markup of what an element contains, where that was asked and told. -/
def Exchange.markup? : Exchange → Option String
  | ⟨.element _ (.attribute name), .ok content, _⟩ =>
    if name = "innerHTML" then some (content.getD "") else none
  | _ => none

/-- The last that the run was told is the markup of what an element contains. -/
def Run.HeardMarkup (run : Run W) (markup : String) : Prop :=
  run.transcript.head?.bind Exchange.markup? = some markup

namespace Handle

variable {call : ElementCall}

theorem ask_heard (reference : Reference) (call : ElementCall) :
    EndsIn context (ask (.element reference call)) fun answer run => run.Heard call answer := by
  intro run _
  rw [run_ask]
  exact ⟨reference, run.memory, run.transcript, rfl⟩

theorem answered_heard (name operation : String) (answer : Except Fault call.Answer) :
    Triple context (fun run => run.Heard call answer) (answered name operation answer)
      (fun value run => run.Heard call (.ok value)) fun _ _ => True := by
  cases answer with
  | ok value => exact .pure fun _ h_heard => h_heard
  | error fault => exact .throw fun _ _ => trivial

/-- What a call gives is the answer to it, to the second call if there were two. -/
theorem recovering_heard (handle : Handle) (refind : Action W Reference) (operation : String)
    (call : ElementCall) :
    EndsIn context (handle.recovering refind operation call)
      fun value run => run.Heard call (.ok value) := by
  refine EndsIn.bind fun reference => Triple.bind (ask_heard reference call) fun first => ?_
  split
  · exact EndsIn.triple <| EndsIn.bind fun _ => EndsIn.bind fun again =>
      Triple.bind (ask_heard again call) fun answer => answered_heard _ operation answer
  · exact answered_heard _ operation first

theorem perform_heard (handle : Handle) (call : ElementCall) :
    EndsIn context (handle.perform call) fun value run => run.Heard call (.ok value) := by
  obtain ⟨own, ancestors⟩ := handle
  cases ancestors with
  | nil => exact recovering_heard _ _ _ call
  | cons parent rest => exact recovering_heard _ _ _ call

theorem innerHtml_heard (handle : Handle) :
    EndsIn context handle.innerHtml fun markup run => run.HeardMarkup markup :=
  Triple.bind (perform_heard handle (.attribute "innerHTML")) fun content => .pure <| by
    rintro run ⟨reference, memory, earlier, h_transcript⟩
    rw [Run.HeardMarkup, h_transcript]
    rfl

end Handle

-- ============================================================================
-- Loading
-- ============================================================================

theorem Column.trackedAttribute?_eq_some_iff {column : Column} {name : String} :
    column.trackedAttribute? = some name ↔ ∃ value, column.search = .byAttribute name value := by
  obtain ⟨visibleName, search⟩ := column
  cases search <;> simp [trackedAttribute?]

/-- The attribute is one that a declared column is searched by. -/
theorem TableSpec.mem_trackedAttributes_iff {spec : TableSpec} {name : String} :
    name ∈ spec.trackedAttributes ↔
      ∃ key column value, (key, column) ∈ spec.columns
        ∧ column.search = .byAttribute name value := by
  simp only [trackedAttributes, List.mem_filterMap, Prod.exists,
    Column.trackedAttribute?_eq_some_iff, exists_and_left]

/-- A column with an attribute is searched by it, and neither the attribute nor the value is
    empty. -/
theorem Column.byAttribute_eq_ok_iff {text name value : String} {column : Column} :
    Column.byAttribute text name value = .ok column ↔
      name ≠ "" ∧ value ≠ "" ∧ column = ⟨text, .byAttribute name value⟩ := by
  rw [Column.byAttribute]
  split
  · rename_i h_empty
    refine ⟨fun h_ok => (nomatch h_ok), fun ⟨h_name, h_value, _⟩ => ?_⟩
    simp [h_name, h_value] at h_empty
  · rename_i h_full
    simp only [Bool.or_eq_true, String.isEmpty_iff, not_or] at h_full
    exact ⟨fun h_ok => ⟨h_full.1, h_full.2, (Except.ok.inj h_ok).symm⟩,
      fun h_column => h_column.2.2 ▸ rfl⟩

namespace Table

/-- The table has the columns of its declaration, and its header is the reading of a markup. -/
structure Reads (table : Table) (slot : String) (spec : TableSpec) (markup : String) : Prop where
  slot_eq : table.slot = slot
  columns_eq : table.columns = spec.columns
  header_eq :
    Header.parse markup Header.defaultTextKey spec.trackedAttributes = .ok table.header

/-- A table that is loaded is the reading of the markup that the run was told last. -/
theorem load_reads (slot : String) (spec : TableSpec) (rootXPath : String) :
    EndsIn context (load slot spec rootXPath) fun table run =>
      ∃ markup, run.HeardMarkup markup ∧ table.Reads slot spec markup :=
  EndsIn.bind fun _ => EndsIn.bind fun _ => EndsIn.bind fun head =>
    Triple.bind (Handle.innerHtml_heard head) fun markup => Triple.bind (.lift _) fun _ =>
      .pure fun _ h_read => ⟨markup, h_read.2, rfl, rfl, h_read.1⟩

variable {table : Table} {slot markup : String} {spec : TableSpec}

/-- A column that is bound by its name is a declared one. -/
theorem Reads.mem_of_column (h : table.Reads slot spec markup) {key : String} {column : Column}
    (h_column : table.column key = .ok column) : (key, column) ∈ spec.columns := by
  rw [Table.column, h.columns_eq] at h_column
  split at h_column
  · rename_i found h_found
    obtain rfl := Except.ok.inj h_column
    obtain ⟨before, after, h_columns, -⟩ := List.lookup_eq_some_iff.1 h_found
    rw [h_columns]
    exact List.mem_append_right _ List.mem_cons_self
  · cases h_column

/-- An attribute other than the text key is looked up among the columns of the markup, if a declared
    column is searched by it. -/
theorem Reads.position?_eq (h : table.Reads slot spec markup) {name value : String}
    (h_key : name ≠ Header.defaultTextKey) (h_value : value ≠ "") :
    table.header.position? name value =
      if name ∈ spec.trackedAttributes then
        Header.lastPosition? (fun cell => cell.attribute? name = some value)
          (Header.columnCells (Markup.parse markup))
      else none := by
  have h_bears : ∀ cell ∈ Header.columnCells (Markup.parse markup),
      (Header.bears Header.defaultTextKey spec.trackedAttributes name value cell = true ↔
        name ∈ spec.trackedAttributes ∧ cell.attribute? name = some value) := by
    intro cell h_cell
    rw [Header.bears_attribute_iff (Header.soundAttributes_of_mem_columnCells h_cell) h_key,
      and_iff_right h_value]
  rw [(Header.parse_records h.header_eq).position?_eq]
  split
  · rename_i h_tracked
    refine Header.lastPosition?_congr fun cell h_cell => ?_
    rw [Bool.eq_iff_iff, h_bears cell h_cell, and_iff_right h_tracked, decide_eq_true_iff]
  · rename_i h_untracked
    refine Header.lastPosition?_eq_none_iff.2 fun cell h_cell => ?_
    rw [Bool.eq_false_iff, ne_eq, h_bears cell h_cell]
    exact fun h_both => h_untracked h_both.1

/-- A column has the position that the header gives for its attribute or for its text. -/
theorem columnIndex_eq_ok_iff {column : Column} {position : Nat} :
    table.columnIndex column = .ok position ↔
      (match column.search with
        | .byAttribute name value => table.header.position? name value
        | .visibleName => table.header.byText? column.visibleName) = some position := by
  obtain ⟨visibleName, search⟩ := column
  cases search with
  | visibleName =>
    dsimp only [columnIndex]
    cases table.header.byText? visibleName <;> simp
  | byAttribute name value =>
    dsimp only [columnIndex]
    cases table.header.position? name value <;> simp

/-- After a table was loaded, a column with an attribute, other than the text key, has a position
    exactly if a genuine cell of the header has the attribute with that value, and then it is the
    position of such a cell; provided that the column is declared, or that a declared column is
    searched by the same attribute. Any other column is reported as not found. -/
theorem columnIndex_byAttribute {rootXPath : String} {run after : Run W}
    (h : load slot spec rootXPath context run = (.ok table, after)) :
    ∃ markup, after.HeardMarkup markup ∧ ∀ text name value column,
      Column.byAttribute text name value = .ok column → name ≠ Header.defaultTextKey →
        ((∃ key, table.column key = .ok column) → name ∈ spec.trackedAttributes) ∧
        (name ∈ spec.trackedAttributes →
          ((∃ position, table.columnIndex column = .ok position) ↔
            ∃ cell ∈ Header.columnCells (Markup.parse markup),
              cell.attribute? name = some value) ∧
          ∀ position, table.columnIndex column = .ok position →
            ∃ cell, Header.IsCellOf (Header.columnCells (Markup.parse markup)) position cell ∧
              cell.attribute? name = some value) ∧
        (name ∉ spec.trackedAttributes → table.columnIndex column =
          .error (.tableColumnNotFound (column.display ++ " not found in table " ++ slot))) := by
  have h_loads : EndsIn context (load slot spec rootXPath) fun table run =>
      ∃ markup, run.HeardMarkup markup ∧ table.Reads slot spec markup :=
    load_reads slot spec rootXPath
  have h_end := h_loads run trivial
  rw [h] at h_end
  obtain ⟨markup, h_heard, h_reads⟩ := h_end
  refine ⟨markup, h_heard, fun text name value column h_column h_key => ?_⟩
  obtain ⟨-, h_value, rfl⟩ := Column.byAttribute_eq_ok_iff.1 h_column
  have h_position := h_reads.position?_eq h_key h_value
  refine ⟨?_, ?_, ?_⟩
  · rintro ⟨key, h_bound⟩
    exact TableSpec.mem_trackedAttributes_iff.2 ⟨key, _, value, h_reads.mem_of_column h_bound, rfl⟩
  · intro h_tracked
    rw [if_pos h_tracked] at h_position
    simp only [columnIndex_eq_ok_iff, h_position]
    simpa using Header.lastPosition?_finds (Header.columnCells (Markup.parse markup))
      fun cell => cell.attribute? name = some value
  · intro h_untracked
    rw [if_neg h_untracked] at h_position
    simp only [columnIndex, h_position, h_reads.slot_eq]

end Table

/-- The header of a table with one column, whose cell has an attribute. -/
def titleMarkup : String :=
  "<tr><th data-field='title'>Title</th></tr>"

/-- A page that shows a table with this header. -/
def Browser.withTitle : Browser where
  nodes := [
    ("table", { children := [(Table.headerXPath, ["header"])] }),
    ("header", { attributes := [("innerHTML", titleMarkup)] })]
  document := [("//p-table", ["table"])]

/-- The column that is searched by the attribute. -/
def titleColumn : Column :=
  ⟨"Title", .byAttribute "data-field" "title"⟩

/-- A table that was loaded in a certain run, known by a property of it. -/
theorem Table.exists_of_any {outcome : Except PageError Table × Run W} {p : Table → Bool}
    (h : outcome.1.toOption.any p = true) :
    ∃ table after, outcome = (.ok table, after) ∧ p table = true := by
  obtain ⟨e | table, after⟩ := outcome
  · cases h
  · exact ⟨table, after, rfl, h⟩

/-- Where the column is declared, its position is that of its cell. -/
theorem Table.columnIndex_byAttribute_title : ∃ table after markup,
    load "orders" { columns := [("title", titleColumn)] } "//p-table"
        ⟨Browser.driver, Page.bare⟩ { world := Browser.withTitle } = (.ok table, after)
      ∧ after.HeardMarkup markup ∧ table.columnIndex titleColumn = .ok 1
      ∧ ∃ cell, Header.IsCellOf (Header.columnCells (Markup.parse markup)) 1 cell
        ∧ cell.attribute? "data-field" = some "title" := by
  have h_any : (load "orders" { columns := [("title", titleColumn)] } "//p-table"
      ⟨Browser.driver, Page.bare⟩ { world := Browser.withTitle }).1.toOption.any
        (fun table => table.columnIndex titleColumn = .ok 1) = true := by
    decide +kernel
  obtain ⟨table, after, h_load, h_index⟩ := exists_of_any h_any
  obtain ⟨markup, h_heard, h_columns⟩ := columnIndex_byAttribute h_load
  obtain ⟨-, h_declared, -⟩ := h_columns "Title" "data-field" "title" titleColumn rfl (by decide)
  exact ⟨table, after, markup, h_load, h_heard, of_decide_eq_true h_index,
    (h_declared (by decide)).2 1 (of_decide_eq_true h_index)⟩

/-- Where no declared column is searched by the attribute, the column is not found, though its cell
    is there. -/
theorem Table.columnIndex_undeclared : ∃ table after,
    load "orders" {} "//p-table" ⟨Browser.driver, Page.bare⟩ { world := Browser.withTitle }
        = (.ok table, after)
      ∧ after.HeardMarkup titleMarkup
      ∧ Column.byAttribute "Title" "data-field" "title" = .ok titleColumn
      ∧ (∃ cell ∈ Header.columnCells (Markup.parse titleMarkup),
        cell.attribute? "data-field" = some "title")
      ∧ ¬∃ position, table.columnIndex titleColumn = .ok position := by
  have h_any : (load "orders" {} "//p-table" ⟨Browser.driver, Page.bare⟩
      { world := Browser.withTitle }).1.toOption.any
        (fun table => (table.columnIndex titleColumn).toOption = none) = true := by
    decide +kernel
  obtain ⟨table, after, h_load, h_index⟩ := exists_of_any h_any
  have h_heard : after.HeardMarkup titleMarkup := by
    obtain rfl : _ = after := congrArg Prod.snd h_load
    rw [Run.HeardMarkup]
    decide +kernel
  have h_cell : (Header.columnCells (Markup.parse titleMarkup)).any
      (fun cell => cell.attribute? "data-field" = some "title") = true := by
    decide +kernel
  refine ⟨table, after, h_load, h_heard, rfl, by simpa [List.any_eq_true] using h_cell, ?_⟩
  rintro ⟨position, h_position⟩
  rw [h_position] at h_index
  cases h_index

end PageObjects
