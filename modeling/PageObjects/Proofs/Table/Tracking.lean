/-
  PageObjects.Proofs.Table.Tracking

  What the attributes that an index tracks do to its texts. Texts and attributes are
  indexed alike, by a key and a value, so that an attribute by the name of the text
  key counts as one more text of its cell. Only there can tracking one attribute more
  disturb the texts; every other attribute leaves them as they are.

    * `agreeOnTexts_of_bears`: readings agree on the texts where every column bears the
      same texts.
    * `agreeOnTexts_iff`: when a reading that tracks more agrees with one that tracks
      less.
-/

import PageObjects.Proofs.Table.Indexing

namespace PageObjects
namespace Header

open Markup (Element)

-- ============================================================================
-- Readings that agree
-- ============================================================================

/-- Two readings of a header agree on its texts: both fail, or both give an index with the same
    texts at the same positions and as many columns. -/
def AgreeOnTexts : Except PageError Header → Except PageError Header → Prop
  | .ok header, .ok other =>
    (∀ text, header.byText? text = other.byText? text) ∧ header.columnCount = other.columnCount
  | .error _, .error _ => True
  | _, _ => False

/-- The cell has an attribute by the name of the text key, and that attribute is neither empty nor
    the text of the cell. -/
def Misleads (textKey : String) (cell : Element) : Prop :=
  ∃ value ≠ "", cell.attribute? textKey = some value ∧ value ≠ visibleText cell.text

variable {markup textKey : String} {few many : List String} {header other : Header}

/-- How many columns are counted depends on the texts that are found. -/
theorem columnCount_congr (h : header.Apart) (h_other : other.Apart)
    (h_texts : ∀ text, header.byText? text = other.byText? text) :
    header.columnCount = other.columnCount := by
  have h_perm : ((header.values header.textKey).map (·.1)).Perm
      ((other.values other.textKey).map (·.1)) := by
    refine (List.perm_ext_iff_of_nodup (h.nodup_values _) (h_other.nodup_values _)).2 fun text => ?_
    have h_same := h_texts text
    rw [byText?, byText?] at h_same
    rw [mem_values_iff, mem_values_iff, h_same]
  have h_length := h_perm.length_eq
  rwa [List.length_map, List.length_map] at h_length

/-- Readings agree on the texts where every column bears the same texts in both. -/
theorem agreeOnTexts_of_bears
    (h : ∀ cell ∈ columnCells (Markup.parse markup), ∀ text,
      bears textKey few textKey text cell = bears textKey many textKey text cell) :
    AgreeOnTexts (parse markup textKey few) (parse markup textKey many) := by
  have h_fresh : Fresh textKey few (columnCells (Markup.parse markup)) ↔
      Fresh textKey many (columnCells (Markup.parse markup)) :=
    List.Pairwise.iff_of_mem fun h_cell _ => by rw [h _ h_cell]
  have h_both : (∃ header, parse markup textKey few = .ok header) ↔
      ∃ header, parse markup textKey many = .ok header := by
    rw [exists_parse_iff, exists_parse_iff, h_fresh]
  cases h_few : parse markup textKey few with
  | error fault =>
    cases h_many : parse markup textKey many with
    | error fault' => trivial
    | ok other =>
      obtain ⟨header, h_header⟩ := h_both.2 ⟨other, h_many⟩
      rw [h_few] at h_header
      cases h_header
  | ok header =>
    cases h_many : parse markup textKey many with
    | error fault =>
      obtain ⟨other, h_other⟩ := h_both.1 ⟨header, h_few⟩
      rw [h_many] at h_other
      cases h_other
    | ok other =>
      have h_records := parse_records h_few
      have h_records' := parse_records h_many
      have h_texts : ∀ text, header.byText? text = other.byText? text := by
        intro text
        rw [byText?, byText?, h_records.textKey_eq, h_records'.textKey_eq, h_records.position?_eq,
          h_records'.position?_eq]
        exact lastPosition?_congr fun cell h_cell => h cell h_cell text
      exact ⟨h_texts, columnCount_congr h_records.apart h_records'.apart h_texts⟩

-- ============================================================================
-- Tracking more
-- ============================================================================

theorem bears_of_subset (h : few ⊆ many) {key value : String} {cell : Element}
    (h_bears : bears textKey few key value cell = true) :
    bears textKey many key value cell = true := by
  simp only [bears, hasTracked, Bool.or_eq_true, Bool.and_eq_true, List.contains_iff_mem]
    at h_bears ⊢
  exact h_bears.imp_right fun h_tracked => ⟨h_tracked.1, h_tracked.2.1, h h_tracked.2.2⟩

/-- A header that is read with more attributes tracked is read with fewer. -/
theorem exists_parse_of_subset (h : few ⊆ many)
    (h_many : ∃ header, parse markup textKey many = .ok header) :
    ∃ header, parse markup textKey few = .ok header := by
  obtain ⟨h_rows, h_spans, h_fresh⟩ := (exists_parse_iff markup textKey many).1 h_many
  refine (exists_parse_iff markup textKey few).2 ⟨h_rows, h_spans, h_fresh.imp fun h_bears => ?_⟩
  rw [Bool.eq_false_iff] at h_bears ⊢
  exact fun h_few => h_bears (bears_of_subset h h_few)

/-- The same columns bear the same texts, unless the text key is tracked and a column misleads. -/
theorem bears_eq_of_not_misleads (h : few ⊆ many)
    (h_honest : textKey ∈ many → textKey ∉ few →
      ∀ cell ∈ columnCells (Markup.parse markup), ¬Misleads textKey cell)
    {cell : Element} (h_cell : cell ∈ columnCells (Markup.parse markup)) (text : String) :
    bears textKey few textKey text cell = bears textKey many textKey text cell := by
  have h_sound := soundAttributes_of_mem_columnCells h_cell
  rw [Bool.eq_iff_iff]
  refine ⟨bears_of_subset h, fun h_bears => ?_⟩
  rcases (bears_iff h_sound).1 h_bears with h_own | ⟨h_many, h_value, h_attribute⟩
  · exact (bears_iff h_sound).2 (.inl h_own)
  · by_cases h_few : textKey ∈ few
    · exact (bears_iff h_sound).2 (.inr ⟨h_few, h_value, h_attribute⟩)
    · have h_same : text = visibleText cell.text := by
        by_contra h_ne
        exact h_honest h_many h_few cell h_cell ⟨text, h_value, h_attribute, h_ne⟩
      exact (bears_iff h_sound).2 (.inl ⟨rfl, h_same.symm⟩)

/-- A column that misleads shows in what is found: its attribute stands at its position or a later
    one, where a cell with that text cannot stand. -/
theorem not_misleads_of_agree (h_many : textKey ∈ many) (h_few : textKey ∉ few)
    (h_header : parse markup textKey few = .ok header)
    (h_other : parse markup textKey many = .ok other)
    (h_texts : ∀ text, header.byText? text = other.byText? text) {cell : Element}
    (h_cell : cell ∈ columnCells (Markup.parse markup)) : ¬Misleads textKey cell := by
  rintro ⟨text, h_value, h_attribute, h_ne⟩
  have h_records := parse_records h_header
  have h_records' := parse_records h_other
  have h_bears : bears textKey many textKey text cell = true :=
    (bears_iff (soundAttributes_of_mem_columnCells h_cell)).2
      (.inr ⟨h_many, h_value, h_attribute⟩)
  obtain ⟨index, h_index⟩ := List.getElem?_of_mem h_cell
  -- the position that both readings give for the attribute
  obtain ⟨position, h_position⟩ := Option.isSome_iff_exists.1
    ((h_records'.byText?_isSome_iff text).2 ⟨cell, h_cell, h_bears⟩)
  have h_found := (h_texts text).trans h_position
  rw [byText?, h_records'.textKey_eq, h_records'.position?_eq, lastPosition?_eq_some_iff]
    at h_position
  rw [byText?, h_records.textKey_eq, h_records.position?_eq, lastPosition?_eq_some_iff] at h_found
  have h_le : index + 1 ≤ position := h_position.2 ⟨cell, ⟨index, rfl, h_index⟩, h_bears⟩
  obtain ⟨⟨named, ⟨index', rfl, h_index'⟩, h_named⟩, -⟩ := h_found
  rw [bears_textKey h_few, decide_eq_true_eq] at h_named
  rcases Nat.eq_or_lt_of_le (Nat.le_of_succ_le_succ h_le) with rfl | h_lt
  · rw [h_index] at h_index'
    obtain rfl := Option.some.inj h_index'
    exact h_ne h_named.symm
  · -- a later cell with that text would have been refused
    obtain ⟨h_bound, rfl⟩ := List.getElem?_eq_some_iff.1 h_index
    obtain ⟨h_bound', rfl⟩ := List.getElem?_eq_some_iff.1 h_index'
    have h_not := List.pairwise_iff_getElem.1 h_records'.fresh index index' h_bound h_bound' h_lt
    rw [h_named, h_bears] at h_not
    cases h_not

/-- A reading that tracks more attributes agrees on the texts with one that tracks fewer exactly if
    it does not track the text key on top, or the header is refused anyway, or no column has an
    attribute by that name which is not its text. -/
theorem agreeOnTexts_iff (markup textKey : String) {few many : List String} (h : few ⊆ many) :
    AgreeOnTexts (parse markup textKey few) (parse markup textKey many) ↔
      (textKey ∈ many → textKey ∉ few → ∀ header, parse markup textKey few = .ok header →
        ∀ cell ∈ columnCells (Markup.parse markup), ¬Misleads textKey cell) := by
  constructor
  · intro h_agree h_many h_few header h_header cell h_cell
    rw [h_header] at h_agree
    cases h_other : parse markup textKey many with
    | error fault =>
      rw [h_other] at h_agree
      exact h_agree.elim
    | ok other =>
      rw [h_other] at h_agree
      exact not_misleads_of_agree h_many h_few h_header h_other h_agree.1 h_cell
  · intro h_honest
    cases h_few : parse markup textKey few with
    | error fault =>
      cases h_many : parse markup textKey many with
      | error fault' => trivial
      | ok other =>
        obtain ⟨header, h_header⟩ := exists_parse_of_subset h ⟨other, h_many⟩
        rw [h_few] at h_header
        cases h_header
    | ok header =>
      rw [← h_few]
      exact agreeOnTexts_of_bears fun cell h_cell text =>
        bears_eq_of_not_misleads h (fun h_key h_not => h_honest h_key h_not header h_few)
          h_cell text

/-- A header whose first column has an attribute that says what the second column is called. -/
def confusedHeader : String :=
  "<tr><th text='B'>A</th><th>B</th></tr>"

/-- The header is read while nothing is tracked, and refused once that attribute is tracked. -/
theorem agreeOnTexts_confusedHeader :
    [] ⊆ [defaultTextKey] ∧ (∃ header, parse confusedHeader defaultTextKey [] = .ok header) ∧
      ¬AgreeOnTexts (parse confusedHeader defaultTextKey [])
        (parse confusedHeader defaultTextKey [defaultTextKey]) := by
  obtain ⟨header, h_header⟩ : ∃ header, parse confusedHeader defaultTextKey [] = .ok header := by
    refine (exists_parse_iff _ _ _).2 ⟨?_, ?_, ?_⟩
    · exact List.ne_nil_of_length_pos (by decide +kernel)
    · decide +kernel
    · rw [fresh_iff_nodup List.not_mem_nil]
      decide +kernel
  refine ⟨List.nil_subset _, ⟨header, h_header⟩, fun h_agree => ?_⟩
  have h_honest := (agreeOnTexts_iff confusedHeader defaultTextKey (List.nil_subset _)).1 h_agree
    List.mem_cons_self List.not_mem_nil header h_header
  obtain ⟨cell, h_cell, h_misleads⟩ : ∃ cell ∈ columnCells (Markup.parse confusedHeader),
      cell.attribute? defaultTextKey = some "B" ∧ "B" ≠ visibleText cell.text := by
    have h_any : (columnCells (Markup.parse confusedHeader)).any (fun cell =>
        cell.attribute? defaultTextKey = some "B" && "B" ≠ visibleText cell.text) = true := by
      decide +kernel
    simpa [List.any_eq_true] using h_any
  exact h_honest cell h_cell ⟨"B", by decide, h_misleads⟩

end Header
end PageObjects
