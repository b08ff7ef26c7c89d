/-
  PageObjects.Proofs.Url.Splitting

  The two ways of splitting a text into a base and a query: an address is read, and any
  other text is cut at the first marks. In both cases the base has no mark and the query
  has no number sign. The text of an address that was read may be cut as well, since no
  part before its query has a mark; only a file with a loose drive is read as another
  address than the text says.

    * `splitText_eq`: what the cuts leave of any text.
    * `baseOf_marks`, `hash_not_mem_splitQuery`: marks in the base and in the query.
    * `Written.reads_render`: what the text of an address is read as.
    * `splitQuery_agrees`: when the two ways agree.
-/

import PageObjects.Proofs.Url.Params

namespace PageObjects
namespace Url

variable {u : Url} {text : String} {a s tail : List Char} {kind : SchemeKind}
  {query fragment : Option String}

-- ============================================================================
-- Cuts
-- ============================================================================

/-- The query in a text that may stand behind a base. -/
def tailQuery : List Char → List Char
  | '?' :: rest => rest.takeWhile (· != '#')
  | _ => []

/-- A base without marks and what stands behind it are parted at the first mark. -/
theorem splitText_append (h : ∀ c ∈ a, c ∉ "?#".toList)
    (h_tail : ∀ c ∈ tail.head?, c ∈ "?#".toList) : splitText (a ++ tail) = (a, tailQuery tail) := by
  have h_hash : '#' ∉ a := fun h_mem => h '#' h_mem (by decide)
  have h_query : '?' ∉ a := fun h_mem => h '?' h_mem (by decide)
  cases tail with
  | nil =>
    rw [splitText, List.append_nil, Text.cut_of_not_mem h_hash, Text.cut_of_not_mem h_query]
    rfl
  | cons mark rest =>
    have h_mark : mark = '?' ∨ mark = '#' := by simpa using h_tail mark rfl
    rcases h_mark with rfl | rfl
    · have h_before : (a ++ '?' :: rest).takeWhile (· != '#')
          = a ++ '?' :: rest.takeWhile (· != '#') := by
        rw [List.takeWhile_append_of_pos (Text.bne_of_not_mem h_hash)]
        rfl
      rw [splitText, Text.cut_fst, h_before, Text.cut_append h_query]
      rfl
    · rw [splitText, Text.cut_append h_hash, Text.cut_of_not_mem h_query]
      rfl

/-- The base is the text before the first mark, the query the one between a question mark there and
    the next number sign. -/
theorem splitText_eq (s : List Char) :
    splitText s = ((UrlPath.body s).1, tailQuery (UrlPath.body s).2) := by
  obtain ⟨h_split, h_base, h_tail⟩ := body_spec s
  have h_parts := splitText_append h_base h_tail
  rwa [h_split] at h_parts

theorem hash_not_mem_tailQuery (s : List Char) : '#' ∉ tailQuery s := by
  rw [tailQuery.eq_def]
  split
  · exact fun h_mem => absurd (List.mem_takeWhile_imp h_mem) (by decide)
  · exact List.not_mem_nil

/-- The base of a text, be it an address or not, has no mark of a query or a fragment. -/
theorem baseOf_marks (text : String) : ∀ c ∈ (baseOf text).toList, c ∉ "?#".toList := by
  rw [baseOf, splitQuery]
  cases h_parse : parse text with
  | ok u => exact (written_parse h_parse).base_marks
  | error fault =>
    dsimp only
    rw [String.toList_ofList, splitText_eq]
    exact (body_spec text.toList).2.1

/-- The query of a text, be it an address or not, ends before the fragment. -/
theorem hash_not_mem_splitQuery (text : String) : '#' ∉ (splitQuery text).2.toList := by
  rw [splitQuery]
  cases h_parse : parse text with
  | ok u =>
    dsimp only
    cases h_query : u.query with
    | none => exact List.not_mem_nil
    | some query => exact (written_parse h_parse).tail.hash_not_mem h_query
  | error fault =>
    dsimp only
    rw [String.toList_ofList, splitText_eq]
    exact hash_not_mem_tailQuery _

-- ============================================================================
-- The text of an address
-- ============================================================================

theorem tailQuery_tailText (h : ∀ text ∈ query, '#' ∉ text.toList) (fragment : Option String) :
    tailQuery (tailText query fragment) = (query.getD "").toList := by
  cases query with
  | none => cases fragment <;> rfl
  | some text =>
    have h_text := h text rfl
    cases fragment with
    | none =>
      show (text.toList ++ []).takeWhile (· != '#') = text.toList
      rw [List.append_nil, List.takeWhile_eq_self_iff.mpr (Text.bne_of_not_mem h_text)]
    | some behind => exact Text.takeWhile_bne_append h_text behind.toList

/-- The text of an address is cut into its base and its query. -/
theorem Written.splitText_render (h : Written u) :
    splitText u.render.toList = (u.base.toList, (u.query.getD "").toList) := by
  rw [toList_render, splitText_append h.base_marks h.tailOf.mark,
    tailQuery_tailText fun text h_text => h.tail.hash_not_mem h_text]

/-- An encoded query and an encoded fragment are read as they are. -/
theorem queryAndFragment_tailText (h : CleanTail kind query fragment) :
    queryAndFragment kind (tailText query fragment) = (query, fragment) := by
  have h_query : ∀ text ∈ query,
      String.ofList (Percent.encode (querySet kind) text.toList) = text := fun text h_text => by
    rw [Percent.encode_eq_self (h.query text h_text), String.ofList_toList]
  have h_fragment : ∀ text ∈ fragment,
      String.ofList (Percent.encode Percent.inFragment text.toList) = text := fun text h_text => by
    rw [Percent.encode_eq_self (h.fragment text h_text), String.ofList_toList]
  cases query with
  | none =>
    cases fragment with
    | none => rfl
    | some behind =>
      show (none, some (String.ofList (Percent.encode Percent.inFragment behind.toList))) = _
      rw [h_fragment behind rfl]
  | some text =>
    have h_text : '#' ∉ text.toList := h.hash_not_mem rfl
    cases fragment with
    | none =>
      have h_cut := Text.cut_of_not_mem h_text
      rw [tailText_query, queryAndFragment]
      dsimp only
      rw [h_cut]
      exact congrArg (fun query => (some query, none)) (h_query text rfl)
    | some behind =>
      have h_cut := Text.cut_append h_text behind.toList
      show queryAndFragment kind ('?' :: (text.toList ++ '#' :: behind.toList)) = _
      rw [queryAndFragment]
      dsimp only
      rw [h_cut]
      exact congrArg₂ (fun query fragment => (some query, some fragment)) (h_query text rfl)
        (h_fragment behind rfl)

theorem Written.withTail_self (h : Written u) :
    u.withTail (tailText u.query u.fragment) = u := by
  rw [withTail, queryAndFragment_tailText h.tail]

/-- The text of an address is read as the address, unless it is a file with a loose drive; that is
    read as an address with another base. -/
theorem Written.reads_render (h : Written u) : ∃ shown, parse u.render = .ok shown
    ∧ (¬u.LooseDrive → shown = u) ∧ (u.LooseDrive → shown.base ≠ u.base) := by
  obtain ⟨site, h_site, h_settled, h_loose⟩ := h.exists_site
  have h_all := h.allCount h.tailOf
  rw [← toList_render] at h_all
  have h_read := h_site ((significant_eq_self h_all).trans (toList_render u)) h.tailOf.mark
  exact ⟨_, h_read, fun h_not => (h_settled h_not _).trans h.withTail_self, h_loose⟩

/-- The base of the text of an address is what stands before its query and its fragment. -/
theorem baseOf_render (h : Canonical u) :
    baseOf u.render = String.ofList (splitText u.render.toList).1 := by
  obtain ⟨shown, h_read, h_same, -⟩ := (Written.server h).reads_render
  rw [baseOf, splitQuery, h_read, h_same (not_looseDrive h.kind),
    (Written.server h).splitText_render, String.ofList_toList]

-- ============================================================================
-- Agreement
-- ============================================================================

/-- A text is split into a base without marks and a query without a number sign. The text of an
    address is read as an address, and what is read of it is what the cuts leave exactly if the
    address is not that of a file with a loose drive. -/
theorem splitQuery_agrees :
    (∀ text, (∀ c ∈ (splitQuery text).1.toList, c ∉ "?#".toList)
        ∧ '#' ∉ (splitQuery text).2.toList)
      ∧ ∀ text u, parse text = .ok u →
        ∃ shown, parse u.render = .ok shown
          ∧ splitQuery u.render = (shown.base, shown.query.getD "")
          ∧ (splitQuery u.render = (splitText u.render.toList).map String.ofList String.ofList ↔
            ¬u.LooseDrive) := by
  refine ⟨fun text => ⟨baseOf_marks text, hash_not_mem_splitQuery text⟩, fun text u h => ?_⟩
  have h_written := written_parse h
  obtain ⟨shown, h_read, h_same, h_other⟩ := h_written.reads_render
  have h_split : splitQuery u.render = (shown.base, shown.query.getD "") := by
    rw [splitQuery, h_read]
  refine ⟨shown, h_read, h_split, ?_⟩
  rw [h_split, h_written.splitText_render, Prod.map_apply, String.ofList_toList,
    String.ofList_toList]
  constructor
  · exact fun h_eq h_loose => h_other h_loose (Prod.mk.inj h_eq).1
  · intro h_settled
    rw [h_same h_settled]

/-- An order whose path and query have encoded characters, and a question mark in the fragment. -/
def quotedOrder : Url where
  scheme := "http"
  authority := some { userinfo := "", host := "shop.local", port := none }
  path := "/my%20orders"
  query := some "tag=%27a%27"
  fragment := some "top?"

theorem splitQuery_agrees_quotedOrder :
    splitQuery quotedOrder.render = ("http://shop.local/my%20orders", "tag=%27a%27") := by
  have h_read : parse "http://shop.local/my orders?tag='a'#top?" = .ok quotedOrder := by
    decide +kernel
  have h_settled : ¬quotedOrder.LooseDrive := fun h_loose => absurd h_loose.1 (by decide)
  obtain ⟨shown, -, -, h_iff⟩ := splitQuery_agrees.2 _ _ h_read
  rw [h_iff.mpr h_settled]
  decide +kernel

/-- A drive that stands behind a host, with one slash too many: the text of that address is read as
    one without the host. -/
theorem splitQuery_driveOnHost : ∃ u : Url, parse "file://h//C:" = .ok u
    ∧ u.render = "file://h/C:" ∧ splitQuery u.render = ("file:///C:", "")
    ∧ splitText u.render.toList = ("file://h/C:".toList, []) := by
  refine ⟨{
    scheme := "file", authority := some { userinfo := "", host := "h", port := none }
    path := "/C:", query := none, fragment := none }, ?_, ?_, ?_, ?_⟩
  · decide +kernel
  · decide +kernel
  · decide +kernel
  · decide +kernel

end Url
end PageObjects
