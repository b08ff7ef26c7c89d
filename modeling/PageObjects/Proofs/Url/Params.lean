/-
  PageObjects.Proofs.Url.Params

  The text of an address that was read, with pairs added to it. Behind the base stand
  the query and the fragment of the address and then the pairs, which makes a query or
  a longer fragment, so the pairs do not change the base.

    * `baseOf_addParams`: pairs do not change the base.
-/

import PageObjects.Proofs.Url.Pairs
import PageObjects.Proofs.Url.Rereading

namespace PageObjects

-- ============================================================================
-- Pairs
-- ============================================================================

namespace Form

theorem visible_of_isPlain {c : Char} (h : isPlain c = true) : 0x20 < c.toNat := by
  simp only [isPlain, Bool.or_eq_true, beq_iff_eq] at h
  rcases h with (((h_alphanum | rfl) | rfl) | rfl) | rfl
  · have h_scheme : Url.isSchemeChar c = true := by
      show (c.isAlphanum || c == '+' || c == '-' || c == '.') = true
      rw [h_alphanum]
      rfl
    exact (UrlPath.isPathChar_of_isSchemeChar h_scheme).1
  · decide
  · decide
  · decide
  · decide

theorem visible_of_mem_encode {s : List Char} {c : Char} (h : c ∈ encode s) : 0x20 < c.toNat := by
  have h_all : ∀ c ∈ Percent.escapeChars, 0x20 < c.toNat := Text.forall_mem_of_all (by decide)
  rcases mem_encode h with h_plain | rfl | h_escape
  · exact visible_of_isPlain h_plain
  · decide
  · exact h_all c h_escape

/-- The text of pairs has no blank and no control character. -/
theorem visible_of_mem_render {pairs : List (String × String)} {c : Char}
    (h : c ∈ (render pairs).toList) : 0x20 < c.toNat := by
  rw [render, String.toList_ofList] at h
  rcases Text.mem_of_mem_intercalate h with rfl | ⟨part, h_part, h_c⟩
  · decide
  · obtain ⟨pair, -, rfl⟩ := List.mem_map.mp h_part
    rcases List.mem_append.mp h_c with h_c | h_c
    · exact visible_of_mem_encode h_c
    · rcases List.mem_cons.mp h_c with rfl | h_c
      · decide
      · exact visible_of_mem_encode h_c

end Form

-- ============================================================================
-- Addresses with pairs
-- ============================================================================

namespace Url

variable {u : Url} {params : List (String × String)}

/-- The text of a query and a fragment, with their marks. -/
def tailText (query fragment : Option String) : List Char :=
  (match query with
    | some query => '?' :: query.toList
    | none => []) ++ (match fragment with
    | some fragment => '#' :: fragment.toList
    | none => [])

theorem tailText_query (text : String) : tailText (some text) none = '?' :: text.toList :=
  List.append_nil _

theorem toList_render (u : Url) :
    u.render.toList = u.base.toList ++ tailText u.query u.fragment := by
  rw [render, String.toList_append, String.toList_append, List.append_assoc]
  dsimp only [tailText]
  cases u.query with
  | none =>
    cases u.fragment with
    | none => rfl
    | some fragment =>
      dsimp only
      rw [String.toList_append]
      rfl
  | some query =>
    cases u.fragment with
    | none =>
      dsimp only
      rw [String.toList_append]
      rfl
    | some fragment =>
      dsimp only
      rw [String.toList_append, String.toList_append]
      rfl

theorem Written.tail (h : Written u) : CleanTail (.of u.scheme) u.query u.fragment := by
  cases h with
  | server h => exact h.tail
  | file h => exact h.tail

/-- What stands behind the base of an address that was read. -/
theorem Written.tailOf (h : Written u) : TailOf u (tailText u.query u.fragment) := by
  obtain ⟨h_query, h_fragment⟩ := h.tail
  generalize h_q : u.query = query at h_query
  generalize h_f : u.fragment = fragment at h_fragment
  refine ⟨fun c h_c => ?_, fun c h_mem => ?_, fun h_nil => ?_⟩
  · cases query with
    | some text =>
      obtain rfl := Option.some.inj h_c
      exact List.mem_cons_self
    | none =>
      cases fragment with
      | some text =>
        obtain rfl := Option.some.inj h_c
        exact List.mem_cons_of_mem _ List.mem_cons_self
      | none => cases h_c
  · rcases List.mem_append.mp h_mem with h_mem | h_mem
    · cases query with
      | some text =>
        rcases List.mem_cons.mp h_mem with rfl | h_mem
        · decide
        · exact (visible_of_inQuery (inQuery_of_querySet (h_query text rfl c h_mem))).1
      | none => cases h_mem
    · cases fragment with
      | some text =>
        rcases List.mem_cons.mp h_mem with rfl | h_mem
        · decide
        · exact visible_of_inFragment (h_fragment text rfl c h_mem)
      | none => cases h_mem
  · cases query with
    | some text => cases h_nil
    | none =>
      cases fragment with
      | some text => cases h_nil
      | none => exact ⟨h_q, h_f⟩

/-- Visible characters behind a mark may be added. -/
theorem TailOf.append {tail added : List Char} {mark : Char} (h : TailOf u tail)
    (h_mark : mark = '&' ∨ mark = '?') (h_first : tail = [] → mark = '?')
    (h_added : ∀ c ∈ added, 0x20 < c.toNat) : TailOf u (tail ++ mark :: added) := by
  refine ⟨fun c h_c => ?_, fun c h_mem => ?_, fun h_nil => ?_⟩
  · cases tail with
    | nil =>
      obtain rfl := h_first rfl
      obtain rfl := Option.some.inj h_c
      exact List.mem_cons_self
    | cons d rest => exact h.mark c h_c
  · rcases List.mem_append.mp h_mem with h_mem | h_mem
    · exact h.visible c h_mem
    · rcases List.mem_cons.mp h_mem with rfl | h_mem
      · rcases h_mark with rfl | rfl
        · decide
        · decide
      · exact h_added c h_mem
  · exact absurd (List.append_eq_nil_iff.mp h_nil).2 (List.cons_ne_nil _ _)

/-- Behind the base stand a query and a fragment also with pairs added. -/
theorem Written.exists_tail (h : Written u) (params : List (String × String)) :
    ∃ tail, (addParams u.render params).toList = u.base.toList ++ tail ∧ TailOf u tail := by
  have h_own := h.tailOf
  rw [addParams]
  split
  · exact ⟨_, toList_render u, h_own⟩
  · have h_pairs : ∀ c ∈ (Form.render params).toList, 0x20 < c.toNat := fun c =>
      Form.visible_of_mem_render
    split
    · rename_i h_contains
      have h_ne : tailText u.query u.fragment ≠ [] := by
        intro h_nil
        rw [toList_render, h_nil, List.append_nil] at h_contains
        exact h.base_marks '?' (List.contains_iff_mem.mp h_contains) (by decide)
      refine ⟨_, ?_, h_own.append (.inl rfl) (fun h_nil => absurd h_nil h_ne) h_pairs⟩
      rw [String.toList_append, String.toList_append, toList_render, List.append_assoc,
        List.append_assoc]
      rfl
    · refine ⟨_, ?_, h_own.append (.inr rfl) (fun _ => rfl) h_pairs⟩
      rw [String.toList_append, String.toList_append, toList_render, List.append_assoc,
        List.append_assoc]
      rfl

/-- Adding pairs to the text of an address does not change its base. -/
theorem baseOf_addParams (h : Written u) (params : List (String × String)) :
    baseOf (addParams u.render params) = baseOf u.render := by
  obtain ⟨site, h_site, -⟩ := h.exists_site
  have h_read : ∀ {text : String} {tail : List Char}, text.toList = u.base.toList ++ tail →
      TailOf u tail → baseOf text = site.base := by
    intro text tail h_text h_tail
    have h_all := h.allCount h_tail
    rw [← h_text] at h_all
    exact baseOf_of_parse (h_site ((significant_eq_self h_all).trans h_text) h_tail.mark)
  obtain ⟨tail, h_text, h_tail⟩ := h.exists_tail params
  rw [h_read h_text h_tail, h_read (toList_render u) h.tailOf]

end Url
end PageObjects
