/-
  PageObjects.Proofs.Url.Added

  The text of an address that was read, with a query and then pairs put behind it. The
  query comes behind a question mark, whatever the address has already, the pairs behind
  an ampersand, if there is a question mark by then. Behind a fragment all of it belongs
  to the fragment; behind a query of the address the query that is added becomes a part
  of its last pair; in all other cases the pairs of the three follow one another.

    * `significant_added`: what of the added text counts.
    * `tailPairs_added_iff`: when the pairs follow one another.
    * `pairs_added_iff`: the same of the address that the text is read as.
-/

import PageObjects.Proofs.Url.Params

namespace PageObjects
namespace Url

variable {u : Url} {s tail : List Char} {query : Option String} {asked : Option (List Char)}
  {params : List (String × String)}

-- ============================================================================
-- Pairs of a tail
-- ============================================================================

/-- The pairs in the query of an address. -/
def pairs (u : Url) : List (String × String) :=
  Form.parse (u.query.getD "")

/-- The pairs of the query in a text that may stand behind the base of an address. -/
def tailPairs : List Char → List (String × String)
  | '?' :: rest => Form.parse (String.ofList (Text.cut '#' rest).1)
  | _ => []

theorem sparesForm_querySet (kind : SchemeKind) : Form.SparesForm (querySet kind) := by
  have h_special : ∀ c, Percent.inSpecialQuery c = false → querySet kind c = false := by
    intro c h_c
    cases kind with
    | other => exact (Bool.or_eq_false_iff.mp h_c).1
    | special => exact h_c
    | file => exact h_c
  have h_marks : ∀ c ∈ "%+&=".toList, Percent.inSpecialQuery c = false :=
    Text.forall_mem_of_all (by decide)
  refine ⟨fun c h_digit => h_special c ?_, fun c h_mem => h_special c (h_marks c h_mem)⟩
  by_cases h_ascii : c.toNat < 0x80
  · refine Text.of_ascii (motive := fun c => Text.digit? 16 c ≠ none →
      Percent.inSpecialQuery c = false) ?_ h_ascii h_digit
    decide
  · refine absurd ?_ h_digit
    simp only [Text.digit?]
    rw [if_neg (by omega), if_neg (by omega), if_neg (by omega)]
    rfl

theorem queryAndFragment_query (kind : SchemeKind) (s : List Char) :
    (queryAndFragment kind ('?' :: s)).1
      = some (String.ofList (Percent.encode (querySet kind) (Text.cut '#' s).1)) := rfl

theorem queryAndFragment_of_ne (kind : SchemeKind) (h : ∀ rest, s ≠ '?' :: rest) :
    (queryAndFragment kind s).1 = none := by
  unfold queryAndFragment
  dsimp only
  split
  · exact absurd rfl (h _)
  · rfl
  · rfl

theorem tailPairs_of_ne (h : ∀ rest, s ≠ '?' :: rest) : tailPairs s = [] := by
  rw [tailPairs]
  exact h

/-- The pairs of an address are those of the text that its query was read from. -/
theorem pairs_withTail (u : Url) (tail : List Char) : (u.withTail tail).pairs = tailPairs tail := by
  rw [pairs, withTail]
  by_cases h_query : ∃ rest, tail = '?' :: rest
  · obtain ⟨rest, rfl⟩ := h_query
    rw [queryAndFragment_query, Option.getD_some, Form.parse_encode (sparesForm_querySet _)]
    rfl
  · have h_ne : ∀ rest, tail ≠ '?' :: rest := fun rest h_eq => h_query ⟨rest, h_eq⟩
    rw [queryAndFragment_of_ne _ h_ne, tailPairs_of_ne h_ne]
    rfl

theorem tailPairs_query (h : '#' ∉ s) : tailPairs ('?' :: s) = Form.parse (String.ofList s) := by
  rw [tailPairs, Text.cut_of_not_mem h]

/-- A fragment has no pairs, and it may be any text. -/
theorem tailPairs_fragment (h_query : ∀ text ∈ query, '#' ∉ text.toList) (behind : List Char) :
    tailPairs (tailText query none ++ '#' :: behind) = tailPairs (tailText query none) := by
  cases query with
  | none => rfl
  | some text =>
    have h_text := h_query text rfl
    rw [tailText_query, List.cons_append, tailPairs, tailPairs, Text.cut_append h_text,
      Text.cut_of_not_mem h_text]

-- ============================================================================
-- Added text
-- ============================================================================

/-- A text with a query behind it, if there is one. -/
def withQuery (s : List Char) (asked : Option (List Char)) : List Char :=
  s ++ asked.elim [] ('?' :: ·)

/-- A text with pairs behind it. -/
def withPairs (s : List Char) (params : List (String × String)) : List Char :=
  if params.isEmpty then s
  else s ++ (if s.contains '?' then '&' else '?') :: (Form.render params).toList

theorem toList_addParams (text : String) (params : List (String × String)) :
    (addParams text params).toList = withPairs text.toList params := by
  rw [addParams, withPairs]
  split
  · rfl
  · rw [String.toList_append, String.toList_append, List.append_assoc]
    split <;> rfl

theorem withQuery_append (front s : List Char) (asked : Option (List Char)) :
    withQuery (front ++ s) asked = front ++ withQuery s asked := by
  rw [withQuery, withQuery, List.append_assoc]

theorem withPairs_append {front : List Char} (h : '?' ∉ front) (s : List Char)
    (params : List (String × String)) : withPairs (front ++ s) params
      = front ++ withPairs s params := by
  have h_contains : (front ++ s).contains '?' = s.contains '?' := by
    rw [Bool.eq_iff_iff, List.contains_iff_mem, List.contains_iff_mem, List.mem_append,
      or_iff_right h]
  rw [withPairs, withPairs, h_contains]
  split
  · rfl
  · rw [List.append_assoc]

theorem forall_head_withQuery {motive : Char → Prop} (h_mark : motive '?')
    (h : ∀ c ∈ s.head?, motive c) (asked : Option (List Char)) :
    ∀ c ∈ (withQuery s asked).head?, motive c := by
  intro c h_c
  cases s with
  | cons d rest => exact h c h_c
  | nil =>
    cases asked with
    | none => cases h_c
    | some query =>
      obtain rfl := Option.some.inj h_c
      exact h_mark

/-- What an address has of a query that was put behind its text: tabs and line breaks do not count,
    nor, if no pairs follow, blanks and control characters at the end. -/
def keptQuery (params : List (String × String)) (query : List Char) : List Char :=
  if params.isEmpty then keptText query else query.filter fun c => !isBreak c

/-- Of a query without blanks and control characters nothing is lost. -/
theorem keptQuery_eq_self (h : ∀ c ∈ s, 0x20 < c.toNat) (params : List (String × String)) :
    keptQuery params s = s := by
  rw [keptQuery]
  split
  · cases s with
    | nil => rfl
    | cons c rest => exact keptText_append_cons h []
  · exact filter_isBreak fun c h_mem => Nat.le_of_lt (h c h_mem)

theorem not_mem_keptQuery {c : Char} (h : c ∉ s) (params : List (String × String)) :
    c ∉ keptQuery params s := by
  rw [keptQuery]
  split
  · exact fun h_mem => h ((List.rdropWhile_prefix _ s).subset (List.mem_filter.mp h_mem).1)
  · exact fun h_mem => h (List.mem_filter.mp h_mem).1

/-- Of the added text all counts but for what the address does not have of the query. -/
theorem significant_added (h : AllCount s) (h_ne : s ≠ []) {text : String}
    (h_text : text.toList = withPairs (withQuery s asked) params) :
    significant text = withPairs (withQuery s (asked.map (keptQuery params))) params := by
  have h_kept : ∀ mark : Char, 0x20 < mark.toNat → ∀ front : List Char,
      keptText (front ++ mark :: (Form.render params).toList)
        = front.filter (fun c => !isBreak c) ++ mark :: (Form.render params).toList :=
    fun mark h_mark => keptText_append_cons
      (List.forall_mem_cons.mpr ⟨h_mark, fun _ => Form.visible_of_mem_render⟩)
  rw [withPairs] at h_text ⊢
  by_cases h_none : params.isEmpty = true
  · rw [if_pos h_none] at h_text ⊢
    have h_query : keptQuery params = keptText := by
      funext query
      exact if_pos h_none
    rw [significant_append h h_ne h_text, withQuery, h_query]
    cases asked with
    | none => rfl
    | some query =>
      have h_mark : EndsVisible ['?'] := endsVisible_of_forall (Text.forall_mem_of_all (by decide))
      exact congrArg (s ++ ·) (keptText_append h_mark query)
  · rw [if_neg h_none] at h_text ⊢
    have h_query : keptQuery params = fun query => query.filter fun c => !isBreak c := by
      funext query
      exact if_neg h_none
    rw [h_query]
    cases asked with
    | none =>
      rw [withQuery, Option.elim_none, List.append_nil] at h_text
      rw [significant_append h h_ne h_text, Option.map_none, withQuery, Option.elim_none,
        List.append_nil]
      refine congrArg (s ++ ·) (h_kept _ ?_ [])
      split <;> decide
    | some query =>
      -- a question mark stands before the pairs, be anything kept of the query or not
      have h_contains : ∀ query, (withQuery s (some query)).contains '?' = true := fun query =>
        List.contains_iff_mem.mpr (List.mem_append_right s List.mem_cons_self)
      rw [h_contains, if_pos rfl, withQuery, List.append_assoc] at h_text
      rw [significant_append h h_ne h_text, Option.map_some, h_contains, if_pos rfl, withQuery,
        List.append_assoc]
      exact congrArg (s ++ ·) (h_kept '&' (by decide) ('?' :: query))

-- ============================================================================
-- Pairs of the added text
-- ============================================================================

/-- The pairs of a query that is added. -/
def askedPairs (asked : Option (List Char)) : List (String × String) :=
  asked.elim [] fun query => Form.parse (String.ofList query)

/-- Behind a text without a fragment pairs are pairs of it. -/
theorem tailPairs_withPairs (h : '#' ∉ s) (h_mark : ∀ c ∈ s.head?, c = '?')
    (params : List (String × String)) :
    tailPairs (withPairs s params) = tailPairs s ++ params := by
  have h_render : '#' ∉ (Form.render params).toList :=
    Form.not_mem_render (by decide) (by decide) (by decide) params
  rw [withPairs]
  split
  · rename_i h_none
    rw [List.isEmpty_iff.mp h_none, List.append_nil]
  · cases s with
    | nil =>
      have h_parse := tailPairs_query h_render
      rw [String.ofList_toList, Form.parse_renderPairs] at h_parse
      exact h_parse
    | cons c rest =>
      obtain rfl := h_mark c rfl
      have h_rest : '#' ∉ rest := fun h_mem => h (List.mem_cons_of_mem _ h_mem)
      have h_whole : '#' ∉ rest ++ '&' :: (Form.render params).toList := by
        simp [h_rest, h_render]
      have h_contains : ('?' :: rest).contains '?' = true :=
        List.contains_iff_mem.mpr List.mem_cons_self
      rw [h_contains, if_pos rfl, List.cons_append, tailPairs_query h_whole,
        tailPairs_query h_rest, Form.parse_append_render]

/-- Behind a text without a fragment a query has its pairs exactly if there is none already. -/
theorem tailPairs_withQuery_iff (h_query : ∀ text ∈ query, '#' ∉ text.toList)
    (h_asked : ∀ text ∈ asked, '#' ∉ text) :
    tailPairs (withQuery (tailText query none) asked)
        = tailPairs (tailText query none) ++ askedPairs asked ↔
      (query.isSome = true → asked = none) := by
  cases asked with
  | none =>
    rw [withQuery, Option.elim_none, List.append_nil, askedPairs, Option.elim_none,
      List.append_nil]
    exact iff_of_true rfl fun _ => rfl
  | some added =>
    have h_added := h_asked added rfl
    cases query with
    | none =>
      refine iff_of_true ?_ fun h_some => nomatch h_some
      exact tailPairs_query h_added
    | some text =>
      have h_text := h_query text rfl
      have h_whole : '#' ∉ text.toList ++ '?' :: added := by
        simp [h_text, h_added]
      refine iff_of_false ?_ fun h_none => nomatch h_none rfl
      rw [withQuery, Option.elim_some, tailText_query, List.cons_append, tailPairs_query h_whole,
        tailPairs_query h_text]
      exact Form.parse_append_query text.toList added

/-- Without a fragment nothing but a question mark starts the tail, and it has no number sign. -/
theorem tailText_plain (h_query : ∀ text ∈ query, '#' ∉ text.toList) :
    '#' ∉ tailText query none ∧ ∀ c ∈ (tailText query none).head?, c = '?' := by
  cases query with
  | none => exact ⟨List.not_mem_nil, fun _ h_c => by cases h_c⟩
  | some text =>
    rw [tailText_query]
    refine ⟨?_, fun c h_c => (Option.some.inj h_c).symm⟩
    simp [h_query text rfl]

/-- When the pairs of a text, of a query and further pairs follow one another: behind a fragment
    if there are none to be added, else unless a query is put behind another one. -/
theorem tailPairs_added_iff (h_query : ∀ text ∈ query, '#' ∉ text.toList)
    (h_asked : ∀ text ∈ asked, '#' ∉ text) (fragment : Option String)
    (params : List (String × String)) :
    tailPairs (withPairs (withQuery (tailText query fragment) asked) params)
        = tailPairs (tailText query fragment) ++ (askedPairs asked ++ params) ↔
      (fragment.isSome = true → askedPairs asked ++ params = []) ∧
        (fragment = none → query.isSome = true → asked = none) := by
  cases fragment with
  | some text =>
    have h_split : tailText query (some text) = tailText query none ++ '#' :: text.toList := by
      cases query with
      | none => rfl
      | some query =>
        rw [tailText_query]
        rfl
    have h_behind : ∃ behind, withPairs (withQuery (tailText query (some text)) asked) params
        = tailText query none ++ '#' :: behind := by
      rw [h_split, withQuery, List.append_assoc, List.cons_append, withPairs]
      split
      · exact ⟨_, rfl⟩
      · rw [List.append_assoc, List.cons_append]
        exact ⟨_, rfl⟩
    obtain ⟨behind, h_behind⟩ := h_behind
    rw [h_behind, h_split, tailPairs_fragment h_query, tailPairs_fragment h_query,
      List.self_eq_append_right]
    exact ⟨fun h_nil => ⟨fun _ => h_nil, fun h_none => nomatch h_none⟩, fun h => h.1 rfl⟩
  | none =>
    have h_tail := tailText_plain h_query
    have h_added : '#' ∉ withQuery (tailText query none) asked := by
      cases asked with
      | none =>
        rw [withQuery, Option.elim_none, List.append_nil]
        exact h_tail.1
      | some added =>
        rw [withQuery, Option.elim_some]
        simp [h_tail.1, h_asked added rfl]
    have h_mark := forall_head_withQuery (motive := fun c => c = '?') rfl h_tail.2 asked
    rw [tailPairs_withPairs h_added h_mark, ← List.append_assoc, List.append_left_inj,
      tailPairs_withQuery_iff h_query h_asked]
    exact ⟨fun h => ⟨fun h_some => (nomatch h_some), fun _ => h⟩, fun h => h.2 rfl⟩

-- ============================================================================
-- Addresses
-- ============================================================================

theorem isSome_queryAndFragment (h_query : ∀ text ∈ query, '#' ∉ text.toList)
    (fragment : Option String) (kind : SchemeKind) :
    (queryAndFragment kind (tailText query fragment)).1.isSome = query.isSome
      ∧ (queryAndFragment kind (tailText query fragment)).2.isSome = fragment.isSome := by
  cases query with
  | none => cases fragment <;> exact ⟨rfl, rfl⟩
  | some text =>
    cases fragment with
    | none =>
      have h_cut := Text.cut_of_not_mem (h_query text rfl)
      rw [tailText_query, queryAndFragment]
      dsimp only
      rw [h_cut]
      exact ⟨rfl, rfl⟩
    | some fragment =>
      have h_cut := Text.cut_append (h_query text rfl) fragment.toList
      show ((queryAndFragment kind ('?' :: (text.toList ++ '#' :: fragment.toList))).1.isSome = true
        ∧ (queryAndFragment kind ('?' :: (text.toList ++ '#' :: fragment.toList))).2.isSome = true)
      rw [queryAndFragment]
      dsimp only
      rw [h_cut]
      exact ⟨rfl, rfl⟩

/-- What is added to a tail makes a tail. -/
theorem mark_added (h : ∀ c ∈ tail.head?, c ∈ "?#".toList) (asked : Option (List Char))
    (params : List (String × String)) :
    ∀ c ∈ (withPairs (withQuery tail asked) params).head?, c ∈ "?#".toList := by
  have h_query := forall_head_withQuery (motive := fun c => c ∈ "?#".toList) (by decide) h asked
  intro c h_c
  rw [withPairs] at h_c
  split at h_c
  · exact h_query c h_c
  · cases h_first : withQuery tail asked with
    | nil =>
      rw [h_first] at h_c
      obtain rfl := Option.some.inj h_c
      exact List.mem_cons_self
    | cons d rest =>
      rw [h_first] at h_c h_query
      exact h_query c h_c

/-- The text of an address with a query behind it, unless that is empty, and with pairs. -/
def added (text query : String) (params : List (String × String)) : String :=
  addParams (if query.isEmpty then text else text ++ "?" ++ query) params

/-- A query that is added, `none` if it is empty. -/
def asked? (query : String) : Option (List Char) :=
  if query.isEmpty then none else some query.toList

theorem toList_added (text query : String) (params : List (String × String)) :
    (added text query params).toList = withPairs (withQuery text.toList (asked? query)) params := by
  rw [added, toList_addParams, asked?]
  split
  · rw [withQuery, Option.elim_none, List.append_nil]
  · rw [String.toList_append, String.toList_append, withQuery, Option.elim_some, List.append_assoc]
    rfl

theorem askedPairs_kept (query : String) (params : List (String × String)) :
    askedPairs ((asked? query).map (keptQuery params))
      = Form.parse (String.ofList (keptQuery params query.toList)) := by
  rw [asked?]
  split
  · rename_i h_empty
    rw [String.isEmpty_iff.mp h_empty, keptQuery]
    split <;> rfl
  · rfl

theorem map_asked?_eq_none_iff (query : String) (params : List (String × String)) :
    (asked? query).map (keptQuery params) = none ↔ query = "" := by
  rw [Option.map_eq_none_iff, asked?, ← String.isEmpty_iff]
  split
  · rename_i h_empty
    exact iff_of_true rfl h_empty
  · rename_i h_full
    exact iff_of_false (Option.some_ne_none _) h_full

/-- An address that was read, and its text with a query and pairs behind it: what is added changes
    the tail, and only as far as it counts. -/
theorem Written.reads_added (h : Written u) (query : String) (params : List (String × String)) :
    ∃ site : Url,
      parse u.render = .ok (site.withTail (tailText u.query u.fragment)) ∧
      parse (added u.render query params) = .ok (site.withTail (withPairs
        (withQuery (tailText u.query u.fragment) ((asked? query).map (keptQuery params))) params)) ∧
      (¬u.LooseDrive → ∀ tail, site.withTail tail = u.withTail tail) := by
  have h_marks : '?' ∉ u.base.toList := fun h_mem => h.base_marks '?' h_mem (by decide)
  have h_all := h.allCount h.tailOf
  have h_ne : u.base.toList ++ tailText u.query u.fragment ≠ [] := by
    rw [toList_base]
    simp
  -- what stands behind the base, as far as it counts
  have h_significant : significant (added u.render query params) = u.base.toList
      ++ withPairs (withQuery (tailText u.query u.fragment)
        ((asked? query).map (keptQuery params))) params := by
    have h_whole := toList_added u.render query params
    rw [toList_render] at h_whole
    rw [significant_added h_all h_ne h_whole, withQuery_append, withPairs_append h_marks]
  have h_own : significant u.render = u.base.toList ++ tailText u.query u.fragment := by
    rw [← toList_render] at h_all ⊢
    exact significant_eq_self h_all
  obtain ⟨site, h_site, h_settled, -⟩ := h.exists_site
  exact ⟨site, h_site h_own h.tailOf.mark,
    h_site h_significant (mark_added h.tailOf.mark _ params), h_settled⟩

/-- An address that was read, with a query and pairs put behind its text: it keeps its base, and it
    is read as an address exactly if it was one. Its pairs are those of the address, of what is kept
    of the query, and the ones that were added exactly if, behind a fragment, there are none to be
    added, and behind a query the other one is empty. -/
theorem pairs_added_iff (h : Written u) {query : String} (h_query : '#' ∉ query.toList)
    (params : List (String × String)) :
    baseOf (added u.render query params) = baseOf u.render ∧
      (∀ fault, parse u.render = .error fault →
        parse (added u.render query params) = .error fault) ∧
      ∀ own, parse u.render = .ok own → ∃ shown, parse (added u.render query params) = .ok shown ∧
        (shown.pairs = own.pairs ++
            (Form.parse (String.ofList (keptQuery params query.toList)) ++ params) ↔
          (own.fragment.isSome = true →
            Form.parse (String.ofList (keptQuery params query.toList)) ++ params = []) ∧
          (own.fragment = none → own.query.isSome = true → query = "")) := by
  have h_clean : ∀ text ∈ u.query, '#' ∉ text.toList := fun text h_text =>
    h.tail.hash_not_mem h_text
  have h_kept : ∀ text ∈ (asked? query).map (keptQuery params), '#' ∉ text := by
    intro text h_text
    obtain ⟨written, h_written, rfl⟩ := Option.map_eq_some_iff.mp h_text
    rw [asked?] at h_written
    split at h_written
    · cases h_written
    · obtain rfl := Option.some.inj h_written
      exact not_mem_keptQuery h_query params
  obtain ⟨place, h_read, h_read_added, -⟩ := h.reads_added query params
  refine ⟨by rw [baseOf_of_parse h_read_added, baseOf_of_parse h_read],
    fun fault h_error => ?_, fun own h_ok => ?_⟩
  · rw [h_read] at h_error
    cases h_error
  · obtain rfl : place.withTail (tailText u.query u.fragment) = own :=
      Except.ok.inj (h_read.symm.trans h_ok)
    have h_some := isSome_queryAndFragment h_clean u.fragment (.of place.scheme)
    have h_query_some : (place.withTail (tailText u.query u.fragment)).query.isSome
        = u.query.isSome := h_some.1
    have h_fragment_some : (place.withTail (tailText u.query u.fragment)).fragment.isSome
        = u.fragment.isSome := h_some.2
    refine ⟨_, h_read_added, ?_⟩
    have h_iff := tailPairs_added_iff h_clean h_kept u.fragment params
    rw [askedPairs_kept, map_asked?_eq_none_iff] at h_iff
    rw [pairs_withTail, pairs_withTail, h_query_some, h_fragment_some, h_iff,
      ← Option.not_isSome_iff_eq_none, ← Option.not_isSome_iff_eq_none, h_fragment_some]

end Url
end PageObjects
