/-
  PageObjects.Proofs.Url.Canonical

  Addresses that were read. An address is canonical if each of its parts is written
  the way it is read. Everything that is read, alone or relative to a canonical
  address, is canonical; local files, whose drives have rules of their own, are left
  out.

    * `canonical_behindSlashes`, `canonical_relative`: the two ways of reading.
    * `canonical_read`: what is read is canonical.
-/

import PageObjects.Proofs.Url.Path
import PageObjects.Proofs.Url.Server

namespace PageObjects
namespace Url

variable {scheme : String} {s : List Char} {a : Authority} {u base : Url}

-- ============================================================================
-- Canonical addresses
-- ============================================================================

/-- The three forms of a path: it starts with a slash, nothing stands behind a server, or the
    path has no hierarchy. A path of the last form may end with a blank, but no address does. -/
inductive PathForm (kind : SchemeKind) (u : Url) : Prop
  | rooted (h_path : UrlPath.Rooted kind.isSpecial u.path.toList.reverse)
      (h_server : kind = .other ∨ u.authority.isSome = true)
  | bare (h_path : u.path = "") (h_kind : kind = .other) (h_server : u.authority.isSome = true)
  | flat (h_first : u.path.toList.head? ≠ some '/') (h_kind : kind = .other)
      (h_server : u.authority = none)
      (h_chars : ∀ c ∈ u.path.toList, Percent.inControls c = false ∧ c ∉ "?#".toList)
      (h_last : u.query = none → u.fragment = none → EndsVisible u.path.toList)

/-- Each part of the address is written as it is read. -/
structure Canonical (u : Url) : Prop where
  scheme : SchemeText u.scheme
  kind : SchemeKind.of u.scheme ≠ .file
  authority : ∀ a ∈ u.authority, CanonicalAuthority u.scheme a
  path : PathForm (.of u.scheme) u
  tail : CleanTail (.of u.scheme) u.query u.fragment

/-- The other forms have a hierarchy. -/
theorem PathForm.flat_of_isOpaque (h : PathForm (.of u.scheme) u) (h_flat : u.isOpaque = true) :
    u.path.toList.head? ≠ some '/' ∧ SchemeKind.of u.scheme = .other ∧ u.authority = none := by
  rw [isOpaque, Bool.and_eq_true] at h_flat
  cases h with
  | rooted h_path =>
    rw [UrlPath.head?_of_rooted h_path] at h_flat
    cases h_flat.1
  | bare h_path h_kind h_server =>
    rw [← Option.not_isSome, h_server] at h_flat
    cases h_flat.2
  | flat h_first h_kind h_server => exact ⟨h_first, h_kind, h_server⟩

/-- The query and the fragment of a canonical address may be replaced. -/
theorem Canonical.with_tail (h : Canonical u) {query fragment : Option String}
    (h_tail : CleanTail (.of u.scheme) query fragment)
    (h_end : u.isOpaque = true → query ≠ none ∨ fragment ≠ none) :
    Canonical { u with query, fragment } := by
  refine ⟨h.scheme, h.kind, h.authority, ?_, h_tail⟩
  cases h.path with
  | rooted h_path h_server => exact .rooted h_path h_server
  | bare h_path h_kind h_server => exact .bare h_path h_kind h_server
  | flat h_first h_kind h_server h_chars _ =>
    refine .flat h_first h_kind h_server h_chars fun h_query h_fragment => ?_
    have h_flat : u.isOpaque = true := by
      rw [isOpaque, h_server, bne_iff_ne.mpr h_first]
      rfl
    rcases h_end h_flat with h_ne | h_ne
    · exact absurd h_query h_ne
    · exact absurd h_fragment h_ne

-- ============================================================================
-- Addresses with a hierarchy
-- ============================================================================

theorem isFile_eq_false {kind : SchemeKind} (h : kind ≠ .file) : (kind == .file) = false :=
  beq_eq_false_iff_ne.mpr h

/-- The first slash of a path may also be read onto nothing. -/
theorem withPath_slash {kind : SchemeKind} (h_file : kind ≠ .file) (scheme : String)
    (authority : Option Authority) (behind : List Char) :
    withPath kind scheme authority "" ('/' :: behind)
      = withPath kind scheme authority "/" behind := by
  have h_body : UrlPath.body ('/' :: behind)
      = ('/' :: (UrlPath.body behind).1, (UrlPath.body behind).2) := rfl
  rw [withPath, h_body]
  dsimp only
  rw [isFile_eq_false h_file, UrlPath.extend_slash, withPath]
  dsimp only
  rw [isFile_eq_false h_file]

/-- A path that is read behind a slash makes a canonical address. -/
theorem canonical_withPath {authority : Option Authority} (h_scheme : SchemeText scheme)
    (h_file : SchemeKind.of scheme ≠ .file)
    (h_authority : ∀ a ∈ authority, CanonicalAuthority scheme a)
    (h_server : SchemeKind.of scheme = .other ∨ authority.isSome = true) {start : String}
    (h_start : UrlPath.Rooted (SchemeKind.of scheme).isSpecial start.toList.reverse)
    (h_end : start.toList.getLast? = some '/') (s : List Char) :
    Canonical (withPath (.of scheme) scheme authority start s) := by
  refine ⟨h_scheme, h_file, h_authority, .rooted ?_ h_server, cleanTail_queryAndFragment _ _⟩
  have h_path := UrlPath.rooted_extend h_start (UrlPath.isOpen_of_getLast? false h_end)
    (UrlPath.body s).1
  rw [withPath]
  dsimp only
  rw [isFile_eq_false h_file]
  exact h_path

theorem canonical_onServer (h_scheme : SchemeText scheme) (h_file : SchemeKind.of scheme ≠ .file)
    (h : CanonicalAuthority scheme a) (rest : List Char) :
    Canonical (onServer (.of scheme) scheme a rest) := by
  have h_authority : ∀ b ∈ some a, CanonicalAuthority scheme b := by
    intro b h_b
    obtain rfl := Option.some.inj h_b
    exact h
  have h_rooted := canonical_withPath h_scheme h_file h_authority (.inr rfl)
    (UrlPath.rooted_slash (SchemeKind.of scheme).isSpecial) rfl
  have h_bare : ∀ s, SchemeKind.of scheme = .other → (UrlPath.body s).1 = [] →
      Canonical (withPath (.of scheme) scheme (some a) "" s) := by
    intro s h_kind h_body
    refine ⟨h_scheme, h_file, h_authority, .bare ?_ h_kind rfl, cleanTail_queryAndFragment _ _⟩
    rw [withPath]
    dsimp only
    rw [isFile_eq_false h_file, h_body, UrlPath.extend_nil]
  have h_slash : ∀ behind,
      Canonical (withPath (.of scheme) scheme (some a) "" ('/' :: behind)) := by
    intro behind
    rw [withPath_slash h_file]
    exact h_rooted behind
  cases h_kind : SchemeKind.of scheme with
  | file => exact absurd h_kind h_file
  | special =>
    rw [h_kind] at h_rooted
    cases rest with
    | nil => exact h_rooted []
    | cons c behind => exact h_rooted _
  | other =>
    rw [h_kind] at h_rooted h_bare h_slash
    cases rest with
    | nil => exact h_bare [] rfl rfl
    | cons c behind =>
      rw [onServer]
      split
      · rename_i h_mark
        rcases h_mark with rfl | rfl | rfl
        · exact h_bare _ rfl rfl
        · exact h_bare _ rfl rfl
        · exact h_slash behind
      · exact h_rooted _

-- ============================================================================
-- Addresses without a hierarchy
-- ============================================================================

/-- Where neither a query nor a fragment is read there is no text. -/
theorem eq_nil_of_queryAndFragment {kind : SchemeKind} (h_mark : ∀ c ∈ s.head?, c ∈ "?#".toList)
    (h_query : (queryAndFragment kind s).1 = none)
    (h_fragment : (queryAndFragment kind s).2 = none) :
    s = [] := by
  cases s with
  | nil => rfl
  | cons c rest =>
    rcases List.mem_cons.mp (h_mark c rfl) with rfl | h_hash
    · cases h_query
    · obtain rfl := List.mem_singleton.mp h_hash
      cases h_fragment

theorem canonical_opaquePath (h_scheme : SchemeText scheme)
    (h_other : SchemeKind.of scheme = .other) (h_first : s.head? ≠ some '/')
    (h_last : EndsVisible s) : Canonical (opaquePath scheme s) := by
  obtain ⟨h_split, h_written, h_mark⟩ := body_spec s
  have h_file : SchemeKind.of scheme ≠ .file := by
    rw [h_other]
    decide
  refine ⟨h_scheme, h_file, fun a h_a => (nomatch h_a), .flat ?_ h_other rfl ?_ ?_, ?_⟩
  · have h_path : (UrlPath.body s).1.head? ≠ some '/' := by
      intro h_slash
      rw [← h_split, List.head?_append, h_slash] at h_first
      exact h_first rfl
    rw [opaquePath]
    dsimp only
    rw [String.toList_ofList]
    exact Percent.head?_encode_ne (by decide) h_path
  · intro c h_mem
    rw [opaquePath] at h_mem
    dsimp only at h_mem
    rw [String.toList_ofList] at h_mem
    refine ⟨Percent.not_set_of_mem_encode Percent.sparesEscapes_inControls h_mem, ?_⟩
    rcases Percent.mem_encode h_mem with ⟨h_mem, -⟩ | h_escape
    · exact h_written c h_mem
    · have h_all : ∀ c ∈ Percent.escapeChars, c ∉ "?#".toList := Text.forall_mem_of_all (by decide)
      exact h_all c h_escape
  · intro h_query h_fragment
    have h_nil := eq_nil_of_queryAndFragment h_mark h_query h_fragment
    have h_whole : (UrlPath.body s).1 = s := by
      rw [h_nil, List.append_nil] at h_split
      exact h_split
    rw [opaquePath]
    dsimp only
    rw [String.toList_ofList, h_whole]
    exact endsVisible_encode h_last
  · show CleanTail (.of scheme) _ _
    rw [h_other]
    exact cleanTail_queryAndFragment .other _

-- ============================================================================
-- Relative addresses
-- ============================================================================

/-- A query and a fragment on a canonical address make a canonical address. -/
theorem canonical_sameDocument (h : Canonical base) (h_open : base.isOpaque = false)
    (h_same : sameDocument? base s = some u) : Canonical u := by
  have h_end : ∀ query fragment : Option String,
      base.isOpaque = true → query ≠ none ∨ fragment ≠ none := by
    intro query fragment h_flat
    rw [h_open] at h_flat
    cases h_flat
  unfold sameDocument? at h_same
  split at h_same
  · obtain rfl := Option.some.inj h_same
    exact h.with_tail ⟨h.tail.query, fun text h_text => nomatch h_text⟩ (h_end _ _)
  · rename_i rest
    obtain rfl := Option.some.inj h_same
    exact h.with_tail (cleanTail_queryAndFragment (.of base.scheme) ('?' :: rest)) (h_end _ _)
  · rename_i rest
    obtain rfl := Option.some.inj h_same
    exact h.with_tail
      ⟨h.tail.query, (cleanTail_queryAndFragment (.of base.scheme) ('#' :: rest)).fragment⟩
      (h_end _ _)
  · cases h_same

theorem Canonical.server (h : Canonical base) :
    SchemeKind.of base.scheme = .other ∨ base.authority.isSome = true := by
  cases h.path with
  | rooted h_path h_server => exact h_server
  | bare h_path h_kind h_server => exact .inr h_server
  | flat h_first h_kind h_server => exact .inl h_kind

/-- The path of the base without its last segment is a start for other paths. -/
theorem canonical_below (h : Canonical base) (h_open : base.isOpaque = false)
    (h_below : relative.below base s (.of base.scheme) = .ok u) : Canonical u := by
  have h_start : ∀ start : List Char,
      UrlPath.Rooted (SchemeKind.of base.scheme).isSpecial ('/' :: start) →
      Canonical (withPath (.of base.scheme) base.scheme base.authority
        (String.ofList ('/' :: start).reverse) s) := by
    intro start h_rooted
    refine canonical_withPath h.scheme h.kind h.authority h.server ?_ ?_ s
    · rw [String.toList_ofList, List.reverse_reverse]
      exact h_rooted
    · rw [String.toList_ofList, List.getLast?_reverse]
      rfl
  rw [relative.below] at h_below
  obtain rfl := Except.ok.inj h_below
  rw [UrlPath.dropLast, Bool.false_and, if_neg Bool.false_ne_true]
  cases h.path with
  | rooted h_path =>
    obtain ⟨a, b, h_eq, h_not⟩ := List.eq_append_cons_of_mem (List.mem_of_getLast? h_path.root)
    have h_up : base.path.toList.reverse.dropWhile (· != '/') = '/' :: b := by
      rw [h_eq, Text.dropWhile_bne_append h_not]
    rw [h_up]
    exact h_start b (h_path.of_suffix ⟨a, h_eq.symm⟩)
  | bare h_path =>
    rw [h_path]
    exact h_start [] (UrlPath.rooted_slash _)
  | flat h_first _ h_server =>
    rw [isOpaque, h_server, bne_iff_ne.mpr h_first] at h_open
    cases h_open

theorem canonical_relative (h : Canonical base) (h_open : base.isOpaque = false)
    (h_read : relative base s = .ok u) : Canonical u := by
  have h_slash : ∀ written, Canonical
      (withPath (.of base.scheme) base.scheme base.authority "/" written) :=
    canonical_withPath h.scheme h.kind h.authority (h.server) (UrlPath.rooted_slash _) rfl
  have h_server : ∀ written, behindSlashes (.of base.scheme) base.scheme written = .ok u →
      Canonical u := by
    intro written h_written
    obtain ⟨a, rest, h_a, rfl⟩ := canonical_of_behindSlashes h.kind h_written
    exact canonical_onServer h.scheme h.kind h_a rest
  unfold relative at h_read
  dsimp only at h_read
  split at h_read
  · rename_i h_same
    obtain rfl := Except.ok.inj h_read
    exact canonical_sameDocument h h_open h_same
  · split at h_read
    · split at h_read
      · exact h_server _ h_read
      · split at h_read
        · obtain rfl := Except.ok.inj h_read
          exact h_slash _
        · exact canonical_below h h_open h_read
    · split at h_read
      · obtain rfl := Except.ok.inj h_read
        exact h_slash []
      · exact canonical_below h h_open h_read
    · exact canonical_below h h_open h_read

end Url
end PageObjects
