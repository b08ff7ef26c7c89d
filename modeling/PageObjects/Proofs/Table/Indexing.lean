/-
  PageObjects.Proofs.Table.Indexing

  The law of header indexes. The other side of `parse_lawful` reads the header cells
  off the tree in one sweep: one level of `div` is taken away, the rows that remain
  give their cells, and the cells that span no more than one column are the columns,
  numbered from 1.

    * `columnCells` lists these cells, and `Lawful` says what their index must be.
    * `Records` is the invariant of the loop over the cells, whatever is tracked: every
      look-up gives the last of the columns so far that bears the value under the key,
      and no column bears the text of a later one.
    * `Records.column` is one step, `indexCells_run` a whole run; rows and containers
      play no part in them.
    * `Follows` is the same where no attribute is tracked by the name of the text key:
      then texts are distinct and the columns are counted. `Follows.lawful` reads the
      law off it; there only it matters that an element has no attribute twice.
-/

import Mathlib.Data.List.Perm.Subperm
import Mathlib.Data.Set.Basic
import Mathlib.Order.Bounds.Basic
import PageObjects.Proofs.Markup.WellFormed
import PageObjects.Table.Header

namespace PageObjects
namespace Header

open Markup (Element Node)

-- ============================================================================
-- Header cells
-- ============================================================================

/-- The nodes without the containers of the kind `div` at the top. -/
def unwrapped (nodes : List Node) : List Node :=
  nodes.flatMap fun
    | .element tag attributes children =>
      if tag = "div" then children else [.element tag attributes children]
    | node => [node]

/-- The rows of a header. -/
def headerRows (nodes : List Node) : List Element :=
  ((unwrapped nodes).filterMap Node.element?).filter (·.tag == "tr")

/-- The header cells, in document order. -/
def headerCells (nodes : List Node) : List Element :=
  (headerRows nodes).flatMap fun row => row.elements.filter (·.tag == "th")

/-- The number of columns that a cell spans, if that can be read; it is one where nothing is
    said. -/
def span? (cell : Element) : Option Nat :=
  match cell.attribute? "colspan" with
  | none => some 1
  | some span => Text.naturalBelow? 32 (Text.trimBlanks span.toList)

/-- Whether a cell stands over one column. -/
def isGenuine (cell : Element) : Bool :=
  (span? cell).any (· ≤ 1)

/-- The cells of the columns, in document order. -/
def columnCells (nodes : List Node) : List Element :=
  (headerCells nodes).filter isGenuine

/-- The cell of a column, by the position of the column. -/
def IsCellOf (cells : List Element) (position : Nat) (cell : Element) : Prop :=
  ∃ index, position = index + 1 ∧ cells[index]? = some cell

/-- The index that the cells of the columns must have. -/
structure Lawful (textKey : String) (tracked : List String) (cells : List Element)
    (header : Header) : Prop where
  columnCount_eq : header.columnCount = cells.length
  byText?_iff : ∀ text position, header.byText? text = some position ↔
    ∃ cell, IsCellOf cells position cell ∧ visibleText cell.text = text
  position?_iff : ∀ name ∈ tracked, ∀ value ≠ "", ∀ position,
    header.position? name value = some position ↔
      IsGreatest {n | ∃ cell, IsCellOf cells n cell ∧ cell.attribute? name = some value} position
  position?_eq_none_iff : ∀ name ∈ tracked, ∀ value ≠ "", header.position? name value = none ↔
    ∀ cell ∈ cells, cell.attribute? name ≠ some value
  /-- Nothing else is indexed, and nothing twice. -/
  entries : ∀ e ∈ header.entries, header.position? e.key e.value = some e.position ∧
    (e.key = textKey ∨ e.key ∈ tracked ∧ e.value ≠ "")

theorem rows_eq_headerRows (nodes : List Node) : rows nodes = headerRows nodes := by
  induction nodes with
  | nil => rfl
  | cons node rest ih =>
    have h_split : headerRows (node :: rest) = headerRows [node] ++ headerRows rest := by
      simp only [headerRows, unwrapped, List.flatMap_cons, List.flatMap_nil, List.append_nil,
        List.filterMap_append, List.filter_append]
    have h_head : rows (node :: rest) = rows [node] ++ rows rest := by
      simp only [rows, List.flatMap_cons, List.flatMap_nil, List.append_nil]
    rw [h_split, h_head, ih]
    congr 1
    cases node with
    | text content => rfl
    | comment content => rfl
    | element tag attributes children =>
      by_cases h_div : tag = "div"
      · subst h_div
        simp [rows, headerRows, unwrapped, Node.element?, Element.elements]
      · by_cases h_row : tag = "tr" <;>
          simp [rows, headerRows, unwrapped, Node.element?, h_div, h_row]

/-- The cells of the columns among some cells of header rows. -/
def columnsAmong (cells : List Element) : List Element :=
  (cells.filter (·.tag == "th")).filter isGenuine

theorem headerCells_eq (nodes : List Node) :
    headerCells nodes = ((rows nodes).flatMap (·.elements)).filter (·.tag == "th") := by
  rw [rows_eq_headerRows, List.filter_flatMap]
  rfl

theorem columnCells_eq (nodes : List Node) :
    columnCells nodes = columnsAmong ((rows nodes).flatMap (·.elements)) := by
  rw [columnCells, headerCells_eq, columnsAmong]

/-- The columns at the head: a cell that is none leaves them as they are. -/
theorem columnsAmong_cons_of_not {cell : Element} (rest : List Element)
    (h : (cell.tag == "th" && isGenuine cell) = false) :
    columnsAmong (cell :: rest) = columnsAmong rest := by
  rw [Bool.and_comm] at h
  rw [columnsAmong, List.filter_filter, List.filter_cons_of_neg (by rw [h]; decide), columnsAmong,
    List.filter_filter]

theorem columnsAmong_cons_of {cell : Element} (rest : List Element) (h_tag : cell.tag = "th")
    (h : isGenuine cell = true) : columnsAmong (cell :: rest) = cell :: columnsAmong rest := by
  rw [columnsAmong, List.filter_cons_of_pos (by rw [h_tag]; decide), List.filter_cons_of_pos h,
    columnsAmong]

/-- A cell is read as a label exactly if its span can be read and it is not genuine. -/
theorem isGroupLabel_eq_ok_iff {cell : Element} {label : Bool} :
    isGroupLabel cell = .ok label ↔ (span? cell).isSome ∧ isGenuine cell = !label := by
  unfold isGroupLabel isGenuine span?
  cases cell.attribute? "colspan" with
  | none => cases label <;> simp
  | some span =>
    cases h_span : Text.naturalBelow? 32 (Text.trimBlanks span.toList) with
    | none => simp [h_span]
    | some n => cases label <;> simp [h_span]

-- ============================================================================
-- Entries
-- ============================================================================

theorem position?_insert (key value : String) (position : Nat) (header : Header)
    (key' value' : String) :
    (header.insert key value position).position? key' value' =
      if key' = key ∧ value' = value then some position else header.position? key' value' := by
  by_cases h : key' = key ∧ value' = value
  · obtain ⟨rfl, rfl⟩ := h
    simp [position?, insert, HeaderEntry.isAt]
  · have h_new : HeaderEntry.isAt ⟨key, value, position⟩ key' value' = false := by
      simp only [HeaderEntry.isAt, Bool.and_eq_false_iff, beq_eq_false_iff_ne]
      by_contra! h_same
      exact h ⟨h_same.1.symm, h_same.2.symm⟩
    rw [if_neg h, position?, insert, List.find?_cons_of_neg (by rw [h_new]; decide),
      List.find?_filter, position?]
    congr 2
    funext e
    by_cases h_at : e.isAt key value = true
    · simp only [HeaderEntry.isAt, Bool.and_eq_true, beq_iff_eq] at h_at
      obtain ⟨rfl, rfl⟩ := h_at
      simpa [HeaderEntry.isAt] using h_new
    · simp [h_at]

/-- No two entries agree in key and value. -/
def Apart (header : Header) : Prop :=
  header.entries.Pairwise fun e e' => ¬(e.key = e'.key ∧ e.value = e'.value)

theorem Apart.insert {header : Header} (h : header.Apart) (key value : String) (position : Nat) :
    (header.insert key value position).Apart := by
  refine List.pairwise_cons.2 ⟨fun e h_mem h_same => ?_, h.filter _⟩
  have h_not := (List.mem_filter.1 h_mem).2
  obtain ⟨rfl, rfl⟩ : key = e.key ∧ value = e.value := h_same
  simp [HeaderEntry.isAt] at h_not

/-- Where entries are apart, every one of them is found. -/
theorem Apart.position?_of_mem {header : Header} (h : header.Apart) {e : HeaderEntry}
    (h_mem : e ∈ header.entries) : header.position? e.key e.value = some e.position := by
  obtain ⟨textKey, entries⟩ := header
  have h_entries : entries.Pairwise fun e e' => ¬(e.key = e'.key ∧ e.value = e'.value) := h
  suffices h_find : entries.find? (fun e' => e'.isAt e.key e.value) = some e by
    rw [position?, h_find, Option.map_some]
  clear h
  induction entries with
  | nil => exact absurd h_mem List.not_mem_nil
  | cons first rest ih =>
    obtain ⟨h_first, h_rest⟩ := List.pairwise_cons.1 h_entries
    rcases List.mem_cons.1 h_mem with rfl | h_mem
    · exact List.find?_cons_of_pos (by simp [HeaderEntry.isAt])
    · have h_other := h_first e h_mem
      rw [List.find?_cons_of_neg (by simpa [HeaderEntry.isAt] using h_other)]
      exact ih h_mem h_rest

/-- Where entries are apart, no value is listed twice under a key. -/
theorem Apart.nodup_values {header : Header} (h : header.Apart) (key : String) :
    ((header.values key).map (·.1)).Nodup := by
  have h_values : (header.values key).map (·.1)
      = (header.entries.filter fun e => e.key == key).map (·.value) := by
    rw [values, List.map_map]
    rfl
  rw [h_values]
  refine List.pairwise_map.2 ((h.filter _).imp_of_mem fun {e e'} h_e h_e' h_apart h_value => ?_)
  have h_key : e.key = key := beq_iff_eq.1 (List.mem_filter.1 h_e).2
  have h_key' : e'.key = key := beq_iff_eq.1 (List.mem_filter.1 h_e').2
  exact h_apart ⟨h_key.trans h_key'.symm, h_value⟩

theorem mem_values_iff {key value : String} {header : Header} :
    value ∈ (header.values key).map (·.1) ↔ (header.position? key value).isSome = true := by
  simp [values, position?, HeaderEntry.isAt, and_assoc]

-- ============================================================================
-- One column
-- ============================================================================

/-- Whether a cell has a tracked attribute with a value that is not empty. -/
def hasTracked (tracked : List String) (attributes : List Markup.Attribute)
    (key value : String) : Bool :=
  attributes.contains (key, value) && (value ≠ "" && tracked.contains key)

/-- Whether a cell bears `value` under `key`. -/
def bears (textKey : String) (tracked : List String) (key value : String) (cell : Element) : Bool :=
  (key = textKey && visibleText cell.text = value) || hasTracked tracked cell.attributes key value

theorem insertAttributes_cons (tracked : List String) (position : Nat) (name value : String)
    (rest : List Markup.Attribute) (header : Header) :
    insertAttributes tracked position ((name, value) :: rest) header =
      insertAttributes tracked position rest
        (if value ≠ "" && tracked.contains name then header.insert name value position
          else header) := rfl

theorem hasTracked_cons (tracked : List String) (name value : String)
    (rest : List Markup.Attribute) (key value' : String) :
    hasTracked tracked ((name, value) :: rest) key value' =
      (((key = name && value' = value) && (value ≠ "" && tracked.contains name)) ||
        hasTracked tracked rest key value') := by
  by_cases h : key = name ∧ value' = value
  · obtain ⟨rfl, rfl⟩ := h
    cases h_tracked : (decide (value' ≠ "") && tracked.contains key) <;>
      simp only [hasTracked, h_tracked, List.contains_cons, beq_self_eq_true, decide_true,
        Bool.true_or, Bool.and_true, Bool.and_false, Bool.or_false]
  · have h_pair : ((key, value') == (name, value)) = false := by
      rw [beq_eq_false_iff_ne, Ne, Prod.mk.injEq]
      exact h
    simp only [hasTracked, List.contains_cons, h_pair, Bool.false_or]
    simp [h]

/-- After all attributes of a cell, what it bears stands at its position and all else where it
    stood. -/
theorem position?_insertAttributes (tracked : List String) (position : Nat)
    (attributes : List Markup.Attribute) (header : Header) (key value : String) :
    (insertAttributes tracked position attributes header).position? key value =
      if hasTracked tracked attributes key value then some position
      else header.position? key value := by
  induction attributes generalizing header with
  | nil => simp [insertAttributes, hasTracked]
  | cons first rest ih =>
    obtain ⟨name, value'⟩ := first
    rw [insertAttributes_cons, ih, hasTracked_cons]
    by_cases h_rest : hasTracked tracked rest key value = true
    · simp [h_rest]
    by_cases h_tracked : (decide (value' ≠ "") && tracked.contains name) = true
    · rw [if_neg h_rest, if_pos h_tracked, position?_insert, h_tracked]
      simp [h_rest]
    · rw [Bool.not_eq_true] at h_tracked
      simp only [h_rest, h_tracked, Bool.false_eq_true, if_false, Bool.and_false, Bool.false_or]

theorem textKey_insertAttributes (tracked : List String) (position : Nat)
    (attributes : List Markup.Attribute) (header : Header) :
    (insertAttributes tracked position attributes header).textKey = header.textKey := by
  induction attributes generalizing header with
  | nil => rfl
  | cons first rest ih =>
    obtain ⟨name, value⟩ := first
    rw [insertAttributes_cons, ih]
    split <;> rfl

theorem Apart.insertAttributes {header : Header} (h : header.Apart) (tracked : List String)
    (position : Nat) (attributes : List Markup.Attribute) :
    (insertAttributes tracked position attributes header).Apart := by
  induction attributes generalizing header with
  | nil => exact h
  | cons first rest ih =>
    obtain ⟨name, value⟩ := first
    rw [insertAttributes_cons]
    refine ih ?_
    split
    · exact h.insert name value position
    · exact h

-- ============================================================================
-- The last cell that bears a value
-- ============================================================================

/-- The position of the last cell with the property `p`, counted from 1. -/
def lastPosition? (p : Element → Bool) (cells : List Element) : Option Nat :=
  (cells.reverse.findIdx? p).map (cells.length - ·)

theorem lastPosition?_concat (p : Element → Bool) (cells : List Element) (cell : Element) :
    lastPosition? p (cells ++ [cell]) =
      if p cell then some (cells.length + 1) else lastPosition? p cells := by
  rw [lastPosition?, List.reverse_append, List.reverse_singleton, List.singleton_append,
    List.findIdx?_cons, List.length_append, List.length_singleton]
  split
  · rfl
  · rw [Option.map_map, lastPosition?]
    congr 1
    funext index
    exact Nat.add_sub_add_right _ _ _

theorem isCellOf_concat_iff {cells : List Element} {last cell : Element} {position : Nat} :
    IsCellOf (cells ++ [last]) position cell ↔
      IsCellOf cells position cell ∨ position = cells.length + 1 ∧ cell = last := by
  constructor
  · rintro ⟨index, rfl, h_index⟩
    rcases Nat.lt_trichotomy index cells.length with h | h | h
    · rw [List.getElem?_append_left h] at h_index
      exact Or.inl ⟨index, rfl, h_index⟩
    · rw [h, List.getElem?_concat_length] at h_index
      exact Or.inr ⟨by rw [h], (Option.some.inj h_index).symm⟩
    · rw [List.getElem?_eq_none (by rw [List.length_append, List.length_singleton]; omega)]
        at h_index
      exact nomatch h_index
  · rintro (⟨index, rfl, h_index⟩ | ⟨rfl, rfl⟩)
    · have h_lt := (List.getElem?_eq_some_iff.1 h_index).1
      exact ⟨index, rfl, by rw [List.getElem?_append_left h_lt, h_index]⟩
    · exact ⟨cells.length, rfl, List.getElem?_concat_length⟩

theorem IsCellOf.le_length {cells : List Element} {position : Nat} {cell : Element}
    (h : IsCellOf cells position cell) : position ≤ cells.length := by
  obtain ⟨index, rfl, h_index⟩ := h
  exact (List.getElem?_eq_some_iff.1 h_index).1

theorem IsCellOf.mem {cells : List Element} {position : Nat} {cell : Element}
    (h : IsCellOf cells position cell) : cell ∈ cells := by
  obtain ⟨index, rfl, h_index⟩ := h
  exact List.mem_of_getElem? h_index

theorem lastPosition?_eq_some_iff {p : Element → Bool} {cells : List Element} {position : Nat} :
    lastPosition? p cells = some position ↔
      IsGreatest {n | ∃ cell, IsCellOf cells n cell ∧ p cell = true} position := by
  induction cells using List.reverseRecOn generalizing position with
  | nil =>
    refine ⟨fun h => (nomatch h), ?_⟩
    rintro ⟨⟨cell, h_cell, -⟩, -⟩
    exact absurd h_cell.mem List.not_mem_nil
  | append_singleton cells last ih =>
    rw [lastPosition?_concat]
    by_cases h_last : p last = true
    · rw [if_pos h_last, Option.some.injEq]
      have h_greatest : IsGreatest {n | ∃ cell, IsCellOf (cells ++ [last]) n cell ∧ p cell = true}
          (cells.length + 1) := by
        refine ⟨⟨last, isCellOf_concat_iff.2 (Or.inr ⟨rfl, rfl⟩), h_last⟩, ?_⟩
        rintro n ⟨cell, h_cell, -⟩
        simpa using h_cell.le_length
      exact ⟨fun h => h ▸ h_greatest, fun h => h_greatest.unique h⟩
    · rw [if_neg h_last, ih]
      have h_same : {n | ∃ cell, IsCellOf (cells ++ [last]) n cell ∧ p cell = true} =
          {n | ∃ cell, IsCellOf cells n cell ∧ p cell = true} := by
        ext n
        refine ⟨?_, fun ⟨cell, h_cell, h_p⟩ => ⟨cell, isCellOf_concat_iff.2 (Or.inl h_cell), h_p⟩⟩
        rintro ⟨cell, h_cell, h_p⟩
        rcases isCellOf_concat_iff.1 h_cell with h_cell | ⟨-, rfl⟩
        · exact ⟨cell, h_cell, h_p⟩
        · exact absurd h_p h_last
      rw [h_same]

theorem lastPosition?_eq_none_iff {p : Element → Bool} {cells : List Element} :
    lastPosition? p cells = none ↔ ∀ cell ∈ cells, p cell = false := by
  simp [lastPosition?]

theorem lastPosition?_congr {p q : Element → Bool} {cells : List Element}
    (h : ∀ cell ∈ cells, p cell = q cell) : lastPosition? p cells = lastPosition? q cells := by
  induction cells using List.reverseRecOn with
  | nil => rfl
  | append_singleton cells last ih =>
    have h_last := h last (List.mem_append_right _ List.mem_cons_self)
    have h_rest := ih fun cell h_cell => h cell (List.mem_append_left _ h_cell)
    rw [lastPosition?_concat, lastPosition?_concat, h_last, h_rest]

/-- There is a last position exactly if there is such a cell, and it is the position of one. -/
theorem lastPosition?_finds (cells : List Element) (p : Element → Bool) :
    ((∃ position, lastPosition? p cells = some position) ↔ ∃ cell ∈ cells, p cell = true) ∧
      ∀ position, lastPosition? p cells = some position →
        ∃ cell, IsCellOf cells position cell ∧ p cell = true := by
  refine ⟨?_, fun position h_position => (lastPosition?_eq_some_iff.1 h_position).1⟩
  rw [← Option.ne_none_iff_exists', ne_eq, lastPosition?_eq_none_iff]
  simp only [not_forall, Bool.not_eq_false, exists_prop]

-- ============================================================================
-- The loop over the cells
-- ============================================================================

/-- The visible texts of some cells. -/
def texts (cells : List Element) : List String :=
  cells.map fun cell => visibleText cell.text

/-- No column bears the text of a column behind it under the text key. -/
def Fresh (textKey : String) (tracked : List String) (cells : List Element) : Prop :=
  cells.Pairwise fun cell later =>
    bears textKey tracked textKey (visibleText later.text) cell = false

/-- An index records the columns `done`: what it gives is the last of them that bears the value
    under the key. -/
structure Records (textKey : String) (tracked : List String) (header : Header)
    (done : List Element) : Prop where
  textKey_eq : header.textKey = textKey
  apart : header.Apart
  fresh : Fresh textKey tracked done
  position?_eq : ∀ key value, header.position? key value =
    lastPosition? (bears textKey tracked key value) done

variable {textKey : String} {tracked : List String} {header : Header} {done : List Element}

theorem records_empty (textKey : String) (tracked : List String) :
    Records textKey tracked ⟨textKey, []⟩ [] :=
  ⟨rfl, .nil, .nil, fun _ _ => rfl⟩

/-- A cell bears its own text. -/
theorem bears_own_text (textKey : String) (tracked : List String) (cell : Element) :
    bears textKey tracked textKey (visibleText cell.text) cell = true := by
  simp [bears]

theorem bears_textKey (h : textKey ∉ tracked) (text : String) (cell : Element) :
    bears textKey tracked textKey text cell = decide (visibleText cell.text = text) := by
  have h_tracked : tracked.contains textKey = false := by simpa using h
  simp only [bears, hasTracked, h_tracked, decide_true, Bool.true_and, Bool.and_false,
    Bool.or_false]

/-- A text is found exactly if a column bears it. -/
theorem Records.byText?_isSome_iff (h : Records textKey tracked header done) (text : String) :
    (header.byText? text).isSome = true ↔
      ∃ cell ∈ done, bears textKey tracked textKey text cell = true := by
  rw [← not_iff_not, Bool.not_eq_true, Option.isSome_eq_false_iff, Option.isNone_iff_eq_none,
    byText?, h.textKey_eq, h.position?_eq, lastPosition?_eq_none_iff]
  simp

/-- One more column, with a text that none of the columns before it bears. -/
theorem Records.column (h : Records textKey tracked header done) {cell : Element}
    (h_new : ¬(header.byText? (visibleText cell.text)).isSome = true) :
    Records textKey tracked
      (insertAttributes tracked (done.length + 1) cell.attributes
        (header.insert header.textKey (visibleText cell.text) (done.length + 1)))
      (done ++ [cell]) := by
  have h_key := h.textKey_eq
  refine ⟨(textKey_insertAttributes _ _ _ _).trans h_key,
    (h.apart.insert _ _ _).insertAttributes _ _ _, ?_, fun key value => ?_⟩
  · refine List.pairwise_append.2 ⟨h.fresh, List.pairwise_singleton _ _, ?_⟩
    intro earlier h_earlier later h_later
    rw [List.mem_singleton.1 h_later, Bool.eq_false_iff]
    exact fun h_bears => h_new ((h.byText?_isSome_iff _).2 ⟨earlier, h_earlier, h_bears⟩)
  · rw [position?_insertAttributes, position?_insert, lastPosition?_concat, h.position?_eq, h_key]
    by_cases h_tracked : hasTracked tracked cell.attributes key value = true
    · simp [bears, h_tracked]
    · by_cases h_text : key = textKey ∧ value = visibleText cell.text
      · simp [bears, h_text]
      · simp [bears, h_tracked, h_text, eq_comm (a := visibleText cell.text)]

/-- Whether the spans of all header cells among `cells` can be read. -/
def Readable (cells : List Element) : Prop :=
  ∀ cell ∈ cells, cell.tag = "th" → (span? cell).isSome = true

theorem readable_cons_iff {cell : Element} {rest : List Element} :
    Readable (cell :: rest) ↔ (cell.tag = "th" → (span? cell).isSome = true) ∧ Readable rest :=
  List.forall_mem_cons

theorem indexCells_cons (tracked : List String) (position : Nat) (header : Header) (cell : Element)
    (rest : List Element) :
    indexCells tracked position header (cell :: rest) =
      if cell.tag ≠ cellTag then indexCells tracked position header rest
      else match isGroupLabel cell with
        | .error fault => .error fault
        | .ok true => indexCells tracked position header rest
        | .ok false =>
          if (header.byText? (visibleText cell.text)).isSome then
            .error (.duplicateText (visibleText cell.text))
          else indexCells tracked (position + 1)
            (insertAttributes tracked position cell.attributes
              (header.insert header.textKey (visibleText cell.text) position)) rest := by
  rw [indexCells]
  split
  · rfl
  · cases isGroupLabel cell with
    | error fault => rfl
    | ok label => cases label <;> rfl

/-- What a run over `cells` gives, where the index records the columns `done` before it. -/
def RunsTo (textKey : String) (tracked : List String) (done cells : List Element) :
    Except HeaderFault Header → Prop
  | .ok header => Readable cells ∧ Records textKey tracked header (done ++ columnsAmong cells)
  | .error _ => ¬(Readable cells ∧ Fresh textKey tracked (done ++ columnsAmong cells))

/-- A cell that is no column and has a span that can be read changes nothing. -/
theorem RunsTo.skip {cell : Element} {rest : List Element} {outcome : Except HeaderFault Header}
    (h_readable : cell.tag = "th" → (span? cell).isSome = true)
    (h_not : (cell.tag == "th" && isGenuine cell) = false)
    (h : RunsTo textKey tracked done rest outcome) :
    RunsTo textKey tracked done (cell :: rest) outcome := by
  cases outcome with
  | ok header =>
    exact ⟨readable_cons_iff.2 ⟨h_readable, h.1⟩, columnsAmong_cons_of_not rest h_not ▸ h.2⟩
  | error fault =>
    rintro ⟨h_all, h_fresh⟩
    exact h ⟨(readable_cons_iff.1 h_all).2, columnsAmong_cons_of_not rest h_not ▸ h_fresh⟩

/-- A column that was indexed belongs to what is done. -/
theorem RunsTo.column {cell : Element} {rest : List Element} {outcome : Except HeaderFault Header}
    (h_tag : cell.tag = "th") (h_readable : (span? cell).isSome = true)
    (h_genuine : isGenuine cell = true)
    (h : RunsTo textKey tracked (done ++ [cell]) rest outcome) :
    RunsTo textKey tracked done (cell :: rest) outcome := by
  have h_columns : done ++ columnsAmong (cell :: rest) = done ++ [cell] ++ columnsAmong rest := by
    rw [columnsAmong_cons_of rest h_tag h_genuine, List.append_assoc, List.singleton_append]
  cases outcome with
  | ok header => exact ⟨readable_cons_iff.2 ⟨fun _ => h_readable, h.1⟩, h_columns ▸ h.2⟩
  | error fault =>
    rintro ⟨h_all, h_fresh⟩
    exact h ⟨(readable_cons_iff.1 h_all).2, h_columns ▸ h_fresh⟩

/-- A run over cells ends well exactly if their spans can be read and no column bears the text of a
    later one, and then the index records all columns. -/
theorem indexCells_run (cells : List Element) (h_records : Records textKey tracked header done) :
    RunsTo textKey tracked done cells (indexCells tracked (done.length + 1) header cells) := by
  induction cells generalizing header done with
  | nil =>
    refine ⟨fun _ h_mem => absurd h_mem List.not_mem_nil, ?_⟩
    rwa [columnsAmong, List.filter_nil, List.filter_nil, List.append_nil]
  | cons cell rest ih =>
    rw [indexCells_cons]
    by_cases h_tag : cell.tag ≠ cellTag
    · have h_other : (cell.tag == "th") = false := beq_eq_false_iff_ne.2 h_tag
      rw [if_pos h_tag]
      exact (ih h_records).skip (absurd · h_tag) (by rw [h_other]; rfl)
    rw [if_neg h_tag]
    have h_tag : cell.tag = "th" := not_not.1 h_tag
    cases h_label : isGroupLabel cell with
    | error fault =>
      rintro ⟨h_all, -⟩
      have h_readable := (readable_cons_iff.1 h_all).1 h_tag
      have h_ok : isGroupLabel cell = .ok (!isGenuine cell) :=
        isGroupLabel_eq_ok_iff.2 ⟨h_readable, (Bool.not_not _).symm⟩
      rw [h_ok] at h_label
      exact nomatch h_label
    | ok label =>
      obtain ⟨h_readable, h_genuine⟩ := isGroupLabel_eq_ok_iff.1 h_label
      cases label with
      | true =>
        exact (ih h_records).skip (fun _ => h_readable) (by rw [h_genuine, Bool.and_comm]; rfl)
      | false =>
        show RunsTo textKey tracked done (cell :: rest) (if _ then _ else _)
        split
        · rename_i h_found
          obtain ⟨earlier, h_earlier, h_bears⟩ := (h_records.byText?_isSome_iff _).1 h_found
          rintro ⟨-, h_fresh⟩
          rw [columnsAmong_cons_of rest h_tag h_genuine] at h_fresh
          have h_not := (List.pairwise_append.1 h_fresh).2.2 earlier h_earlier cell
            List.mem_cons_self
          rw [h_bears] at h_not
          exact nomatch h_not
        · rename_i h_new
          have h_rest := ih (h_records.column h_new)
          rw [List.length_append, List.length_singleton] at h_rest
          exact h_rest.column h_tag h_readable h_genuine

/-! ## How many columns are counted -/

/-- The texts of columns that are recorded are distinct, since every column bears its own. -/
theorem Fresh.distinct {cells : List Element} (h : Fresh textKey tracked cells) :
    (texts cells).Nodup := by
  refine List.pairwise_map.2 (h.imp fun {cell later} h_bears h_same => ?_)
  rw [← h_same, bears_own_text] at h_bears
  exact nomatch h_bears

theorem Records.subset_values (h : Records textKey tracked header done) :
    texts done ⊆ (header.values textKey).map (·.1) := by
  intro text h_text
  obtain ⟨cell, h_cell, rfl⟩ := List.mem_map.1 h_text
  have h_found := (h.byText?_isSome_iff (visibleText cell.text)).2
    ⟨cell, h_cell, bears_own_text textKey tracked cell⟩
  rw [byText?, h.textKey_eq] at h_found
  exact mem_values_iff.2 h_found

/-- No column is left out of the count. -/
theorem Records.length_le (h : Records textKey tracked header done) :
    done.length ≤ header.columnCount := by
  have h_le := (h.fresh.distinct.subperm h.subset_values).length_le
  rwa [texts, List.length_map, List.length_map, ← h.textKey_eq] at h_le

/-- Nothing but columns is counted, unless an attribute goes by the name of the text key. -/
theorem Records.columnCount_eq (h : Records textKey tracked header done)
    (h_key : textKey ∉ tracked) : header.columnCount = done.length := by
  refine Nat.le_antisymm ?_ h.length_le
  have h_subset : (header.values textKey).map (·.1) ⊆ texts done := by
    intro text h_text
    have h_found := mem_values_iff.1 h_text
    rw [← h.textKey_eq] at h_found
    obtain ⟨cell, h_cell, h_bears⟩ := (h.byText?_isSome_iff text).1 h_found
    rw [bears_textKey h_key, decide_eq_true_eq] at h_bears
    exact List.mem_map.2 ⟨cell, h_cell, h_bears⟩
  have h_le := ((h.apart.nodup_values textKey).subperm h_subset).length_le
  rwa [texts, List.length_map, List.length_map, ← h.textKey_eq] at h_le

/-- An index follows the columns `done`: what it gives is the last of them that bears the value
    under the key. -/
structure Follows (textKey : String) (tracked : List String) (header : Header)
    (done : List Element) : Prop where
  textKey_eq : header.textKey = textKey
  apart : header.Apart
  distinct : (texts done).Nodup
  columnCount_eq : header.columnCount = done.length
  position?_eq : ∀ key value, header.position? key value =
    lastPosition? (bears textKey tracked key value) done

theorem Records.follows (h : Records textKey tracked header done) (h_key : textKey ∉ tracked) :
    Follows textKey tracked header done :=
  ⟨h.textKey_eq, h.apart, h.fresh.distinct, h.columnCount_eq h_key, h.position?_eq⟩

/-- Where the text key is not tracked, a column bears the texts that are its own. -/
theorem fresh_iff_nodup (h : textKey ∉ tracked) (cells : List Element) :
    Fresh textKey tracked cells ↔ (texts cells).Nodup := by
  refine ⟨Fresh.distinct, fun h_distinct => (List.pairwise_map.1 h_distinct).imp fun h_ne => ?_⟩
  rw [bears_textKey h, decide_eq_false_iff_not]
  exact h_ne

-- ============================================================================
-- The index of a header
-- ============================================================================

theorem eq_toNode_of_element? {node : Node} {e : Element} (h : node.element? = some e) :
    node = e.toNode := by
  cases node with
  | element tag attributes children => rw [← Option.some.inj h]; rfl
  | text content => exact nomatch h
  | comment content => exact nomatch h

theorem toNode_mem_children {e child : Element} (h : child ∈ e.elements) :
    child.toNode ∈ e.children := by
  obtain ⟨node, h_node, h_child⟩ := List.mem_filterMap.1 h
  exact eq_toNode_of_element? h_child ▸ h_node

theorem occurs_of_mem_unwrapped {nodes : List Node} {node : Node} (h : node ∈ unwrapped nodes) :
    Markup.Occurs nodes node := by
  obtain ⟨root, h_root, h_node⟩ := List.mem_flatMap.1 h
  cases root with
  | text content => exact List.mem_singleton.1 h_node ▸ .root h_root
  | comment content => exact List.mem_singleton.1 h_node ▸ .root h_root
  | element tag attributes children =>
    have h_below : node ∈ if tag = "div" then children else [.element tag attributes children] :=
      h_node
    split at h_below
    · exact .child (.root h_root) h_below
    · exact List.mem_singleton.1 h_below ▸ .root h_root

theorem occurs_of_mem_headerCells {nodes : List Node} {cell : Element}
    (h : cell ∈ headerCells nodes) : Markup.Occurs nodes cell.toNode := by
  obtain ⟨row, h_row, h_cell⟩ := List.mem_flatMap.1 h
  obtain ⟨node, h_node, h_element⟩ := List.mem_filterMap.1 (List.mem_filter.1 h_row).1
  have h_occurs : Markup.Occurs nodes row.toNode :=
    eq_toNode_of_element? h_element ▸ occurs_of_mem_unwrapped h_node
  exact .child h_occurs (toNode_mem_children (List.mem_filter.1 h_cell).1)

/-- Where names are given once, the value of an attribute is the one it is listed with. -/
theorem lookup_eq_some_iff_mem {attributes : List Markup.Attribute}
    (h : (attributes.map (·.1)).Nodup) (name value : String) :
    attributes.lookup name = some value ↔ (name, value) ∈ attributes := by
  induction attributes with
  | nil => simp
  | cons first rest ih =>
    obtain ⟨h_first, h_rest⟩ := List.nodup_cons.1 h
    by_cases h_name : name = first.1
    · subst h_name
      rw [List.lookup_cons_self, List.mem_cons]
      refine ⟨fun h_value => Or.inl (by rw [← Option.some.inj h_value]), ?_⟩
      rintro (h_same | h_mem)
      · rw [← h_same]
      · exact absurd (List.mem_map_of_mem h_mem) h_first
    · rw [List.lookup_cons, beq_eq_false_iff_ne.2 h_name, ih h_rest, List.mem_cons]
      refine ⟨Or.inr, ?_⟩
      rintro (h_same | h_mem)
      · exact absurd (congrArg Prod.fst h_same) h_name
      · exact h_mem

/-- What a cell bears: its text under the text key, and the tracked attributes that it has. -/
theorem bears_iff {cell : Element} (h_sound : Markup.SoundAttributes cell.attributes)
    {key value : String} :
    bears textKey tracked key value cell = true ↔
      key = textKey ∧ visibleText cell.text = value ∨
        key ∈ tracked ∧ value ≠ "" ∧ cell.attribute? key = some value := by
  rw [Element.attribute?, lookup_eq_some_iff_mem h_sound.2]
  simp only [bears, hasTracked, Bool.or_eq_true, Bool.and_eq_true, decide_eq_true_eq,
    List.contains_iff_mem]
  refine or_congr_right ⟨?_, ?_⟩
  · rintro ⟨h_attribute, h_value, h_tracked⟩
    exact ⟨h_tracked, h_value, h_attribute⟩
  · rintro ⟨h_tracked, h_value, h_attribute⟩
    exact ⟨h_attribute, h_value, h_tracked⟩

theorem bears_attribute_iff {cell : Element} (h_sound : Markup.SoundAttributes cell.attributes)
    {name value : String} (h_key : name ≠ textKey) :
    bears textKey tracked name value cell = true ↔
      name ∈ tracked ∧ value ≠ "" ∧ cell.attribute? name = some value := by
  rw [bears_iff h_sound, or_iff_right fun h_text => h_key h_text.1]

theorem bears_tracked_iff (h : textKey ∉ tracked) {cell : Element}
    (h_sound : Markup.SoundAttributes cell.attributes) {name value : String}
    (h_name : name ∈ tracked) (h_value : value ≠ "") :
    bears textKey tracked name value cell = true ↔ cell.attribute? name = some value := by
  rw [bears_attribute_iff h_sound (ne_of_mem_of_not_mem h_name h), and_iff_right h_name,
    and_iff_right h_value]

/-- What a cell bears is its text or one of the tracked attributes. -/
theorem key_of_bears {key value : String} {cell : Element}
    (h : bears textKey tracked key value cell = true) :
    key = textKey ∨ key ∈ tracked ∧ value ≠ "" := by
  simp only [bears, hasTracked, Bool.or_eq_true, Bool.and_eq_true, decide_eq_true_eq,
    List.contains_iff_mem] at h
  rcases h with h | h
  · exact Or.inl h.1
  · exact Or.inr ⟨h.2.2, h.2.1⟩

/-- Where texts are distinct, a text has one position. -/
theorem isGreatest_text_iff (h : (texts done).Nodup) (text : String) (position : Nat) :
    IsGreatest {n | ∃ cell, IsCellOf done n cell ∧ visibleText cell.text = text} position ↔
      ∃ cell, IsCellOf done position cell ∧ visibleText cell.text = text := by
  refine ⟨fun h_greatest => h_greatest.1, fun h_cell => ⟨h_cell, ?_⟩⟩
  obtain ⟨cell, ⟨index, rfl, h_index⟩, rfl⟩ := h_cell
  rintro n ⟨other, ⟨index', rfl, h_index'⟩, h_text⟩
  have h_lt := (List.getElem?_eq_some_iff.1 h_index).1
  have h_same : index = index' := (List.getElem?_inj (by rwa [texts, List.length_map]) h).1 (by
    rw [texts, List.getElem?_map, List.getElem?_map, h_index, h_index', Option.map_some,
      Option.map_some, h_text])
  rw [h_same]

/-- An index that follows the columns is the index they must have. -/
theorem Follows.lawful (h : textKey ∉ tracked) (h_follows : Follows textKey tracked header done)
    (h_sound : ∀ cell ∈ done, Markup.SoundAttributes cell.attributes) :
    Lawful textKey tracked done header where
  columnCount_eq := h_follows.columnCount_eq
  byText?_iff := by
    intro text position
    rw [byText?, h_follows.textKey_eq, h_follows.position?_eq, lastPosition?_eq_some_iff,
      ← isGreatest_text_iff h_follows.distinct]
    simp only [bears_textKey h, decide_eq_true_eq]
  position?_iff := by
    intro name h_name value h_value position
    have h_set : {n | ∃ cell, IsCellOf done n cell ∧ bears textKey tracked name value cell = true} =
        {n | ∃ cell, IsCellOf done n cell ∧ cell.attribute? name = some value} := by
      ext n
      refine exists_congr fun cell => and_congr_right fun h_cell => ?_
      exact bears_tracked_iff h (h_sound cell h_cell.mem) h_name h_value
    rw [h_follows.position?_eq, lastPosition?_eq_some_iff, h_set]
  position?_eq_none_iff := by
    intro name h_name value h_value
    rw [h_follows.position?_eq, lastPosition?_eq_none_iff]
    refine forall₂_congr fun cell h_cell => ?_
    rw [← Bool.not_eq_true, bears_tracked_iff h (h_sound cell h_cell) h_name h_value]
  entries := by
    intro e h_mem
    have h_position := h_follows.apart.position?_of_mem h_mem
    have h_last := h_position
    rw [h_follows.position?_eq, lastPosition?_eq_some_iff] at h_last
    obtain ⟨⟨cell, -, h_bears⟩, -⟩ := h_last
    exact ⟨h_position, key_of_bears h_bears⟩

theorem readable_iff (nodes : List Node) :
    Readable ((rows nodes).flatMap (·.elements)) ↔
      ∀ cell ∈ headerCells nodes, (span? cell).isSome = true := by
  rw [headerCells_eq]
  simp only [Readable, List.mem_filter, beq_iff_eq, and_imp]

theorem ofNodes_of_rows {nodes : List Node} (h : headerRows nodes ≠ []) (textKey : String)
    (tracked : List String) :
    ofNodes textKey tracked nodes =
      indexCells tracked 1 ⟨textKey, []⟩ ((rows nodes).flatMap (·.elements)) := by
  rw [← rows_eq_headerRows] at h
  rw [ofNodes]
  split
  · exact absurd ‹_› h
  · rfl

theorem ofNodes_of_no_rows {nodes : List Node} (h : headerRows nodes = []) (textKey : String)
    (tracked : List String) : ofNodes textKey tracked nodes = .error .noRows := by
  rw [← rows_eq_headerRows] at h
  rw [ofNodes, h]

/-- Reading the nodes of a header ends well exactly if it has rows, the spans can be read and no
    column bears the text of a later one, and then the index records the columns. -/
theorem ofNodes_records (textKey : String) (tracked : List String) (nodes : List Node) :
    match ofNodes textKey tracked nodes with
    | .ok header => headerRows nodes ≠ [] ∧
        (∀ cell ∈ headerCells nodes, (span? cell).isSome = true) ∧
        Records textKey tracked header (columnCells nodes)
    | .error _ => ¬(headerRows nodes ≠ [] ∧
        (∀ cell ∈ headerCells nodes, (span? cell).isSome = true) ∧
        Fresh textKey tracked (columnCells nodes)) := by
  by_cases h_rows : headerRows nodes = []
  · rw [ofNodes_of_no_rows h_rows]
    exact fun h_all => h_all.1 h_rows
  · have h_run := indexCells_run ((rows nodes).flatMap (·.elements))
      (records_empty textKey tracked)
    rw [List.length_nil, Nat.zero_add, ← ofNodes_of_rows h_rows] at h_run
    rw [← readable_iff, columnCells_eq]
    cases h_outcome : ofNodes textKey tracked nodes with
    | ok header =>
      rw [h_outcome] at h_run
      exact ⟨h_rows, h_run.1, h_run.2⟩
    | error fault =>
      rw [h_outcome] at h_run
      exact fun h_all => h_run ⟨h_all.2.1, h_all.2.2⟩

/-- Where the text key is not tracked, what counts is that the texts of the columns are distinct. -/
theorem ofNodes_outcome (h : textKey ∉ tracked) (nodes : List Node) :
    match ofNodes textKey tracked nodes with
    | .ok header => headerRows nodes ≠ [] ∧
        (∀ cell ∈ headerCells nodes, (span? cell).isSome = true) ∧
        Follows textKey tracked header (columnCells nodes)
    | .error _ => ¬(headerRows nodes ≠ [] ∧
        (∀ cell ∈ headerCells nodes, (span? cell).isSome = true) ∧
        (texts (columnCells nodes)).Nodup) := by
  have h_outcome := ofNodes_records textKey tracked nodes
  rw [← fresh_iff_nodup h]
  cases h_nodes : ofNodes textKey tracked nodes with
  | ok header =>
    rw [h_nodes] at h_outcome
    exact ⟨h_outcome.1, h_outcome.2.1, h_outcome.2.2.follows h⟩
  | error fault =>
    rw [h_nodes] at h_outcome
    exact h_outcome

theorem parse_eq_ok_iff {markup : String} :
    parse markup textKey tracked = .ok header ↔
      ofNodes textKey tracked (Markup.parse markup) = .ok header := by
  rw [parse]
  cases ofNodes textKey tracked (Markup.parse markup) with
  | ok found => exact ⟨fun h_ok => congrArg _ (Except.ok.inj h_ok), fun h_ok =>
      congrArg _ (Except.ok.inj h_ok)⟩
  | error fault => exact ⟨fun h_ok => (nomatch h_ok), fun h_ok => (nomatch h_ok)⟩

/-- The index that is read from a markup records the columns of the markup. -/
theorem parse_records {markup : String} (h : parse markup textKey tracked = .ok header) :
    Records textKey tracked header (columnCells (Markup.parse markup)) := by
  have h_outcome := ofNodes_records textKey tracked (Markup.parse markup)
  rw [parse_eq_ok_iff.1 h] at h_outcome
  exact h_outcome.2.2

/-- When an index is read from a markup. -/
theorem exists_parse_iff (markup textKey : String) (tracked : List String) :
    (∃ header, parse markup textKey tracked = .ok header) ↔
      headerRows (Markup.parse markup) ≠ [] ∧
      (∀ cell ∈ headerCells (Markup.parse markup), (span? cell).isSome = true) ∧
      Fresh textKey tracked (columnCells (Markup.parse markup)) := by
  have h_outcome := ofNodes_records textKey tracked (Markup.parse markup)
  simp only [parse_eq_ok_iff]
  cases h_nodes : ofNodes textKey tracked (Markup.parse markup) with
  | ok header =>
    rw [h_nodes] at h_outcome
    exact ⟨fun _ => ⟨h_outcome.1, h_outcome.2.1, h_outcome.2.2.fresh⟩, fun _ => ⟨header, rfl⟩⟩
  | error fault =>
    rw [h_nodes] at h_outcome
    exact ⟨fun ⟨_, h_ok⟩ => (nomatch h_ok), fun h_all => absurd h_all h_outcome⟩

/-- A header counts at least its genuine columns. -/
theorem length_columnCells_le {markup : String} (h : parse markup textKey tracked = .ok header) :
    (columnCells (Markup.parse markup)).length ≤ header.columnCount :=
  (parse_records h).length_le

/-- The columns of a markup have no attribute twice. -/
theorem soundAttributes_of_mem_columnCells {markup : String} {cell : Element}
    (h : cell ∈ columnCells (Markup.parse markup)) : Markup.SoundAttributes cell.attributes :=
  (Markup.row_parse markup).wellFormed.attributes_sound _ _ _
    (occurs_of_mem_headerCells (List.mem_filter.1 h).1)

/-- The law of header indexes. -/
theorem parse_lawful (markup textKey : String) (tracked : List String) (h : textKey ∉ tracked) :
    ((∃ header, parse markup textKey tracked = .ok header) ↔
      headerRows (Markup.parse markup) ≠ [] ∧
      (∀ cell ∈ headerCells (Markup.parse markup), (span? cell).isSome = true) ∧
      (texts (columnCells (Markup.parse markup))).Nodup) ∧
    ∀ header, parse markup textKey tracked = .ok header →
      Lawful textKey tracked (columnCells (Markup.parse markup)) header := by
  have h_sound : ∀ cell ∈ columnCells (Markup.parse markup),
      Markup.SoundAttributes cell.attributes := fun _ => soundAttributes_of_mem_columnCells
  have h_outcome := ofNodes_outcome h (Markup.parse markup)
  cases h_nodes : ofNodes textKey tracked (Markup.parse markup) with
  | ok header =>
    rw [h_nodes] at h_outcome
    obtain ⟨h_rows, h_spans, h_follows⟩ := h_outcome
    have h_parse : parse markup textKey tracked = .ok header := by rw [parse, h_nodes]; rfl
    refine ⟨⟨fun _ => ⟨h_rows, h_spans, h_follows.distinct⟩, fun _ => ⟨header, h_parse⟩⟩, ?_⟩
    intro header' h_header'
    rw [h_parse] at h_header'
    exact Except.ok.inj h_header' ▸ h_follows.lawful h h_sound
  | error fault =>
    rw [h_nodes] at h_outcome
    have h_parse : parse markup textKey tracked = .error (.markup fault.text) := by
      rw [parse, h_nodes]; rfl
    rw [h_parse]
    exact ⟨⟨fun ⟨_, h_ok⟩ => (nomatch h_ok), fun h_all => absurd h_all h_outcome⟩,
      fun _ h_ok => (nomatch h_ok)⟩

/-- A header with a label over both columns, whose second row stands in a container; both columns
    have the same tracked attribute. -/
def labelledHeader : String :=
  "<tr><th colspan=' 2'>Price</tr><div><tr><th k=x>Net<th k=x> Gross"

theorem parse_lawful_labelledHeader :
    "text" ∉ ["k"] ∧ ∃ header, parse labelledHeader "text" ["k"] = .ok header ∧
      header.columnCount = 2 ∧ header.byText? "Gross" = some 2 ∧ header.byText? "Price" = none ∧
      header.position? "k" "x" = some 2 := by
  obtain ⟨h_rows, h_spans, h_texts, h_gross⟩ :
      0 < (headerRows (Markup.parse labelledHeader)).length ∧
      (∀ cell ∈ headerCells (Markup.parse labelledHeader), (span? cell).isSome = true) ∧
      texts (columnCells (Markup.parse labelledHeader)) = ["Net", "Gross"] ∧
      ((columnCells (Markup.parse labelledHeader))[1]?).any (fun cell =>
        visibleText cell.text = "Gross" && cell.attribute? "k" = some "x") = true := by
    decide +kernel
  have h_law := parse_lawful labelledHeader "text" ["k"] (by decide)
  obtain ⟨header, h_header⟩ := h_law.1.2
    ⟨List.ne_nil_of_length_pos h_rows, h_spans, by rw [h_texts]; decide⟩
  have h_lawful := h_law.2 header h_header
  have h_length : (columnCells (Markup.parse labelledHeader)).length = 2 := by
    rw [← List.length_map, ← texts, h_texts]; rfl
  obtain ⟨gross, h_gross, h_text, h_attribute⟩ : ∃ cell,
      (columnCells (Markup.parse labelledHeader))[1]? = some cell ∧
        visibleText cell.text = "Gross" ∧ cell.attribute? "k" = some "x" := by
    simpa [Option.any_eq_true] using h_gross
  have h_second : IsCellOf (columnCells (Markup.parse labelledHeader)) 2 gross := ⟨1, rfl, h_gross⟩
  refine ⟨by decide, header, h_header, h_lawful.columnCount_eq.trans h_length,
    (h_lawful.byText?_iff _ _).2 ⟨gross, h_second, h_text⟩, ?_,
    (h_lawful.position?_iff _ (by decide) _ (by decide) _).2
      ⟨⟨gross, h_second, h_attribute⟩, fun _ ⟨_, h_cell, _⟩ => h_length ▸ h_cell.le_length⟩⟩
  by_contra h_price
  obtain ⟨position, h_position⟩ := Option.ne_none_iff_exists'.1 h_price
  obtain ⟨cell, h_cell, h_same⟩ := (h_lawful.byText?_iff _ _).1 h_position
  have h_mem : "Price" ∈ texts (columnCells (Markup.parse labelledHeader)) :=
    List.mem_map.2 ⟨cell, h_cell.mem, h_same⟩
  rw [h_texts] at h_mem
  exact absurd h_mem (by decide)

end Header
end PageObjects
