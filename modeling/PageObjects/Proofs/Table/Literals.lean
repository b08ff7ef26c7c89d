/-
  PageObjects.Proofs.Table.Literals

  Search values inside of queries. Each query is made from a template, and a value that
  it searches by stands in it as it is, between two double quotes. What a reader of
  xpaths takes there as one string literal ends at the first quote of the kind that it
  began with, whatever was meant to be the value.

    * `XPath.BeginsWithLiteral` is the literal at the start of a text. There is at most
      one, by `BeginsWithLiteral.unique`.
    * `XPath.Embeds` lists the places of all templates where a value stands.
    * `XPath.embeds_literal`: the literal at such a place is the value up to its first
      double quote, so it is the whole value exactly if there is none.
-/

import PageObjects.Locator.Basic
import PageObjects.Proofs.Text.Split
import PageObjects.Table.Column

namespace PageObjects
namespace XPath

-- ============================================================================
-- String literals
-- ============================================================================

/-- The marks that a string literal may stand between. -/
def quotes : List Char := ['"', '\'']

/-- The text begins with a string literal, and `rest` stands behind it. The content of a literal
    stands between two quotes of one kind and holds no quote of that kind. -/
def BeginsWithLiteral (text content rest : List Char) : Prop :=
  ∃ quote ∈ quotes, quote ∉ content ∧ text = quote :: (content ++ quote :: rest)

/-- Texts up to the first quote of a kind are the same if all that is behind is. -/
theorem append_quote_inj {quote : Char} {content rest content' rest' : List Char}
    (h_content : quote ∉ content) (h_content' : quote ∉ content')
    (h : content ++ quote :: rest = content' ++ quote :: rest') :
    content = content' ∧ rest = rest' := by
  have h_stop : ∀ (left : List Char), ∀ c ∈ (quote :: left).head?, c = quote := by
    intro left c h_c
    exact (Option.some.inj h_c).symm
  obtain ⟨h_same, h_behind⟩ :=
    Text.append_inj_of_stop h_content h_content' (h_stop rest) (h_stop rest') h
  exact ⟨h_same, (List.cons.inj h_behind).2⟩

theorem BeginsWithLiteral.unique {text content rest content' rest' : List Char}
    (h : BeginsWithLiteral text content rest) (h' : BeginsWithLiteral text content' rest') :
    content = content' ∧ rest = rest' := by
  obtain ⟨quote, -, h_content, rfl⟩ := h
  obtain ⟨quote', -, h_content', h_text⟩ := h'
  obtain ⟨rfl, h_behind⟩ := List.cons.inj h_text
  exact append_quote_inj h_content h_content' h_behind

theorem toList_literal (value : String) :
    (literal value).toList = '"' :: (value.toList ++ ['"']) := by
  rw [literal, String.toList_append, String.toList_append]
  rfl

/-- A value between double quotes begins with a literal, which ends at the first double quote. -/
theorem exists_beginsWithLiteral (value : String) (rest : List Char) :
    ∃ content left, BeginsWithLiteral ((literal value).toList ++ rest) content left
      ∧ '"' ∉ content ∧ content ++ '"' :: left = value.toList ++ '"' :: rest := by
  have h_text : (literal value).toList ++ rest = '"' :: (value.toList ++ '"' :: rest) := by
    rw [toList_literal, List.cons_append, List.append_assoc]
    rfl
  rw [h_text]
  by_cases h_mem : '"' ∈ value.toList
  · obtain ⟨content, spilled, h_value, h_none⟩ := List.eq_append_cons_of_mem h_mem
    have h_all : content ++ '"' :: (spilled ++ '"' :: rest) = value.toList ++ '"' :: rest := by
      rw [h_value, List.append_assoc, List.cons_append]
    refine ⟨content, spilled ++ '"' :: rest, ⟨'"', by decide, h_none, ?_⟩, h_none, h_all⟩
    rw [h_all]
  · exact ⟨value.toList, rest, ⟨'"', by decide, h_mem, rfl⟩, h_mem, rfl⟩

-- ============================================================================
-- The places of values
-- ============================================================================

/-- The query holds a search value at a place of its template: it begins with `lead`, and `rest` is
    what the template has behind the value. -/
inductive Embeds : (query lead value rest : String) → Prop
  | locator (attr value : String) :
      Embeds (Locator.byAttribute attr value).value ("//*[@" ++ attr ++ "=") value "]"
  | table {spec : TableSpec} {value : String} (settings : Settings) :
      spec.searchValue = some value → value ≠ "" →
      Embeds (spec.rootXPath settings)
        ("//" ++ spec.tag.getD settings.defaultTableTag ++ "[@"
          ++ spec.searchAttribute.getD settings.tableAttribute ++ "=")
        value "]"
  /-- The nested table in the condition on the row around it. -/
  | nestedRow (nested : NestedSpec) (parentRoot : String) (index : Nat) (settings : Settings) :
      Embeds (nested.rootXPath parentRoot index settings)
        (parentRoot ++ "//tbody//tr[.//" ++ nested.spec.tag.getD settings.nestedTableTag ++ "[@"
          ++ nested.spec.searchAttribute.getD settings.tableAttribute ++ "=")
        (nested.baseName ++ toString index)
        ("]]//" ++ stepWithAttribute (nested.spec.tag.getD settings.nestedTableTag)
          (nested.spec.searchAttribute.getD settings.tableAttribute)
          (nested.baseName ++ toString index))
  /-- The nested table itself. -/
  | nestedTable (nested : NestedSpec) (parentRoot : String) (index : Nat) (settings : Settings) :
      Embeds (nested.rootXPath parentRoot index settings)
        (parentRoot ++ "//tbody//tr[.//"
          ++ stepWithAttribute (nested.spec.tag.getD settings.nestedTableTag)
            (nested.spec.searchAttribute.getD settings.tableAttribute)
            (nested.baseName ++ toString index)
          ++ "]//" ++ nested.spec.tag.getD settings.nestedTableTag ++ "[@"
          ++ nested.spec.searchAttribute.getD settings.tableAttribute ++ "=")
        (nested.baseName ++ toString index) "]"
  | columnText {column : Column} :
      column.search = .visibleName →
      Embeds column.relativeXPath "//th[contains(text()," column.visibleName ")]"
  | columnAttribute {column : Column} {name value : String} :
      column.search = .byAttribute name value →
      Embeds column.relativeXPath ("//th[@" ++ name ++ "=") value "]"
  | cells (position : Nat) (text : String) :
      Embeds (cellsContaining position text) "//tr/td[contains(string()," text
        (") and position()=" ++ toString position ++ "]")

variable {query lead value rest : String}

/-- Every template puts the value between double quotes, and nothing else. -/
theorem Embeds.query_eq (h : Embeds query lead value rest) :
    query = lead ++ literal value ++ rest := by
  cases h with
  | locator attr value =>
    have h_any : "//*[@" = "//" ++ "*" ++ "[@" := rfl
    simp only [Locator.byAttribute, Locator.xpath, withAttribute, stepWithAttribute, h_any,
      String.append_assoc]
  | table settings h_value h_some =>
    have h_filter : (some value).filter (fun value => !value.isEmpty) = some value := by
      simp [h_some]
    simp only [TableSpec.rootXPath, h_value, h_filter, withAttribute, stepWithAttribute,
      String.append_assoc]
  | nestedRow nested parentRoot index settings =>
    have h_row : "//tbody//tr[.//" = "//tbody" ++ "//tr[.//" := rfl
    have h_end : "]]//" = "]" ++ "]//" := rfl
    simp only [NestedSpec.rootXPath, stepWithAttribute, body, h_row, h_end, String.append_assoc]
  | nestedTable nested parentRoot index settings =>
    have h_row : "//tbody//tr[.//" = "//tbody" ++ "//tr[.//" := rfl
    simp only [NestedSpec.rootXPath, stepWithAttribute, body, h_row, String.append_assoc]
  | columnText h_search =>
    have h_cells : "//th[contains(text()," = "//" ++ "th" ++ "[contains(text()," := rfl
    simp only [Column.relativeXPath, h_search, withText, Header.cellTag, h_cells]
  | columnAttribute h_search =>
    have h_cells : "//th[@" = "//" ++ "th" ++ "[@" := rfl
    simp only [Column.relativeXPath, h_search, withAttribute, stepWithAttribute, Header.cellTag,
      h_cells, String.append_assoc]
  | cells position text =>
    unfold cellsContaining
    simp only [String.append_assoc]

/-- What stands in a query at the place of a value begins with one literal. It ends at the first
    double quote, and what is left of the value belongs to the query; so the content of the literal
    is the value, and the rest of the template stands behind it, exactly if there is no double quote
    in the value. -/
theorem embeds_literal (h : Embeds query lead value rest) :
    ∃ behind content left, query.toList = lead.toList ++ behind
      ∧ (∀ content' left', BeginsWithLiteral behind content' left' ↔
        content' = content ∧ left' = left)
      ∧ '"' ∉ content ∧ content ++ '"' :: left = value.toList ++ '"' :: rest.toList
      ∧ (content = value.toList ∧ left = rest.toList ↔ '"' ∉ value.toList) := by
  obtain ⟨content, left, h_begins, h_none, h_left⟩ := exists_beginsWithLiteral value rest.toList
  refine ⟨(literal value).toList ++ rest.toList, content, left, ?_, ?_, h_none, h_left, ?_⟩
  · rw [h.query_eq, String.toList_append, String.toList_append, List.append_assoc]
  · intro content' left'
    constructor
    · intro h_other
      exact h_other.unique h_begins
    · rintro ⟨rfl, rfl⟩
      exact h_begins
  · constructor
    · rintro ⟨h_whole, -⟩
      rwa [← h_whole]
    · intro h_plain
      exact append_quote_inj h_none h_plain h_left

/-- A name with a double quote inside ends its literal there, and the query goes on with the rest of
    the name. -/
theorem embeds_literal_quotedName :
    Embeds (Locator.byAttribute "name" "a\"b").value "//*[@name=" "a\"b" "]"
      ∧ ∃ behind, (Locator.byAttribute "name" "a\"b").value.toList = "//*[@name=".toList ++ behind
        ∧ BeginsWithLiteral behind ['a'] "b\"]".toList
        ∧ ¬BeginsWithLiteral behind "a\"b".toList "]".toList := by
  have h_embeds : Embeds (Locator.byAttribute "name" "a\"b").value "//*[@name=" "a\"b" "]" :=
    .locator "name" "a\"b"
  obtain ⟨behind, content, left, h_query, h_begins, h_none, h_left, h_iff⟩ :=
    embeds_literal h_embeds
  obtain ⟨rfl, rfl⟩ : content = ['a'] ∧ left = "b\"]".toList :=
    append_quote_inj h_none (by decide) h_left
  refine ⟨h_embeds, behind, h_query, (h_begins _ _).mpr ⟨rfl, rfl⟩, fun h_whole => ?_⟩
  obtain ⟨h_value, h_rest⟩ := (h_begins _ _).mp h_whole
  exact absurd (h_iff.mp ⟨h_value.symm, h_rest.symm⟩) (by decide)

end XPath
end PageObjects
