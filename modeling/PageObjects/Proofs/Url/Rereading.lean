/-
  PageObjects.Proofs.Url.Rereading

  Reading the text of an address that was read. The text of a canonical address, with
  any query and fragment, is read as that address with that query and fragment, and so
  is that of a file, unless its path starts with the letter of a drive that reading
  changes.

    * `parse_of_significant`: what the text of a canonical address is read as.
    * `Written.exists_site`: what stands behind the base of any address that was read
      becomes its query and its fragment.
-/

import PageObjects.Proofs.Url.Canonical
import PageObjects.Proofs.Url.File
import PageObjects.Url.Query

namespace PageObjects
namespace Url

variable {u : Url} {tail : List Char} {text : String}

-- ============================================================================
-- What is read
-- ============================================================================

/-- An address that was read: canonical, or that of a file. -/
inductive Written (u : Url) : Prop
  | server (h : Canonical u)
  | file (h : CanonicalFile u)

theorem SchemeKind.of_eq_file {scheme : String} (h : SchemeKind.of scheme = .file) :
    scheme = "file" := by
  rw [SchemeKind.of] at h
  split at h
  · cases h
  · split at h
    · rename_i h_file
      exact beq_iff_eq.mp h_file
    · cases h

theorem Written.canonical (h : Written u) (h_file : SchemeKind.of u.scheme ≠ .file) :
    Canonical u := by
  cases h with
  | server h => exact h
  | file h =>
    rw [h.scheme] at h_file
    exact absurd rfl h_file

theorem Written.canonicalFile (h : Written u) (h_file : u.scheme = "file") : CanonicalFile u := by
  cases h with
  | server h =>
    have h_kind := h.kind
    rw [h_file] at h_kind
    exact absurd rfl h_kind
  | file h => exact h

theorem written_behindSlashes {scheme : String} {s : List Char} (h_scheme : SchemeText scheme)
    {kind : SchemeKind} (h_kind : SchemeKind.of scheme = kind) (h_file : kind ≠ .file)
    (h : behindSlashes kind scheme s = .ok u) : Written u := by
  subst h_kind
  obtain ⟨a, rest, h_a, rfl⟩ := canonical_of_behindSlashes h_file h
  exact .server (canonical_onServer h_scheme h_file h_a rest)

theorem written_behindScheme {base : Option Url} {scheme : String} {s : List Char}
    (h_base : ∀ b ∈ base, Written b) (h_scheme : SchemeText scheme) (h_last : EndsVisible s)
    (h : behindScheme base scheme s = .ok u) : Written u := by
  unfold behindScheme at h
  cases h_kind : SchemeKind.of scheme with
  | file =>
    rw [h_kind] at h
    refine .file (canonicalFile_file (fun b h_b => ?_) h)
    obtain ⟨h_mem, h_same⟩ := Option.filter_eq_some_iff.mp h_b
    exact (h_base b h_mem).canonicalFile (beq_iff_eq.mp h_same)
  | special =>
    have h_file : SchemeKind.of scheme ≠ .file := by
      rw [h_kind]
      decide
    rw [h_kind] at h
    dsimp only at h
    split at h
    · rename_i b h_b
      obtain ⟨h_mem, h_same⟩ := Option.filter_eq_some_iff.mp h_b
      rw [Bool.and_eq_true, beq_iff_eq] at h_same
      obtain ⟨rfl, -⟩ := h_same
      have h_canonical := (h_base b h_mem).canonical h_file
      refine .server (canonical_relative h_canonical ?_ h)
      rw [Bool.eq_false_iff]
      intro h_flat
      have h_other := (h_canonical.path.flat_of_isOpaque h_flat).2.1
      rw [h_kind] at h_other
      cases h_other
    · exact written_behindSlashes h_scheme h_kind (by decide) h
  | other =>
    have h_file : SchemeKind.of scheme ≠ .file := by
      rw [h_kind]
      decide
    rw [h_kind] at h
    dsimp only at h
    split at h
    · exact written_behindSlashes h_scheme h_kind (by decide) h
    · obtain rfl := Except.ok.inj h
      have h_none : ∀ a ∈ (none : Option Authority), CanonicalAuthority scheme a :=
        fun a h_a => nomatch h_a
      rw [← h_kind]
      exact .server
        (canonical_withPath h_scheme h_file h_none (.inl h_kind) (UrlPath.rooted_slash _) rfl _)
    · rename_i h_slash
      obtain rfl := Except.ok.inj h
      refine .server (canonical_opaquePath h_scheme h_kind (fun h_first => ?_) h_last)
      obtain ⟨rest, h_eq⟩ := List.head?_eq_some_iff.mp h_first
      exact h_slash rest h_eq

/-- What is read is canonical, relative to what was read. -/
theorem written_read {base : Option Url} (h_base : ∀ b ∈ base, Written b)
    (h : read base text = .ok u) : Written u := by
  have h_last := endsVisible_significant text
  unfold read at h
  dsimp only at h
  split at h
  · rename_i scheme rest h_some
    obtain ⟨h_scheme, before, h_text⟩ := schemeText_of_scheme? h_some
    refine written_behindScheme h_base h_scheme (endsVisible_of_append (a := before ++ [':']) ?_) h
    rw [List.append_assoc, List.singleton_append, ← h_text]
    exact h_last
  · split at h
    · cases h
    · rename_i base
      have h_base := h_base base rfl
      split at h
      · rename_i rest h_s
        have h_tail : CleanTail (.of base.scheme) base.query
            (queryAndFragment (.of base.scheme) ('#' :: rest)).2 := by
          cases h_base with
          | server h => exact ⟨h.tail.query, (cleanTail_queryAndFragment _ _).fragment⟩
          | file h => exact ⟨h.tail.query, (cleanTail_queryAndFragment _ _).fragment⟩
        rw [h_s] at h
        obtain rfl := Except.ok.inj h
        cases h_base with
        | server h => exact .server (h.with_tail h_tail fun _ => .inr (Option.some_ne_none _))
        | file h => exact .file (h.with_tail h_tail)
      · split at h
        · cases h
        · rename_i h_flat
          split at h
          · rename_i h_file
            refine .file (canonicalFile_file (fun b h_b => ?_) h)
            obtain rfl := Option.some.inj h_b
            exact h_base.canonicalFile (beq_iff_eq.mp h_file)
          · rename_i h_file
            have h_kind : SchemeKind.of base.scheme ≠ .file := fun h_kind =>
              h_file (beq_iff_eq.mpr (SchemeKind.of_eq_file h_kind))
            exact .server
              (canonical_relative (h_base.canonical h_kind) (Bool.eq_false_iff.mpr h_flat) h)

theorem written_parse (h : parse text = .ok u) : Written u := by
  have h_none : ∀ b ∈ (none : Option Url), Written b := fun b h_b => nomatch h_b
  exact written_read h_none h

theorem written_join {base : Url} (h_base : Written base) (h : base.join text = .ok u) :
    Written u := by
  refine written_read (fun b h_b => ?_) h
  obtain rfl := Option.some.inj h_b
  exact h_base

-- ============================================================================
-- The text of an address
-- ============================================================================

theorem toList_base (u : Url) :
    u.base.toList = u.scheme.toList ++ ':' :: (u.server.toList ++ u.path.toList) := by
  rw [base, String.toList_append, String.toList_append, String.toList_append, List.append_assoc,
    List.append_assoc]
  rfl

/-- What may stand behind the base of an address: nothing, if the address has neither a query nor
    a fragment, or text that starts with the mark of one of them. -/
structure TailOf (u : Url) (tail : List Char) : Prop where
  mark : ∀ c ∈ tail.head?, c ∈ "?#".toList
  visible : ∀ c ∈ tail, 0x20 < c.toNat
  ends : tail = [] → u.query = none ∧ u.fragment = none

theorem isPathChar_of_clean {c : Char} (h : 0x20 < c.toNat ∧ c ∉ "/\\?#".toList) :
    UrlPath.IsPathChar c := by
  have h_more : ∀ c ∈ "?#".toList, c ∈ "/\\?#".toList := Text.forall_mem_of_all (by decide)
  exact ⟨h.1, fun h_mem => h.2 (h_more c h_mem)⟩

/-- What stands before the path is visible and has no mark of a query or a fragment. -/
theorem Canonical.front_chars (h : Canonical u) :
    ∀ c ∈ u.scheme.toList ++ ':' :: u.server.toList, UrlPath.IsPathChar c := by
  have h_slashes : ∀ c ∈ "//".toList, 0x20 < c.toNat ∧ c ∉ "?#".toList :=
    Text.forall_mem_of_all (by decide)
  have h_server : ∀ c ∈ u.server.toList, UrlPath.IsPathChar c := by
    intro c h_mem
    rw [Url.server] at h_mem
    split at h_mem
    · rename_i a h_a
      rw [String.toList_append] at h_mem
      rcases List.mem_append.mp h_mem with h_mem | h_mem
      · exact h_slashes c h_mem
      · exact isPathChar_of_clean (clean_of_mem_render (h.authority a h_a) h_mem)
    · split at h_mem
      · have h_all : ∀ c ∈ "/.".toList, 0x20 < c.toNat ∧ c ∉ "?#".toList :=
          Text.forall_mem_of_all (by decide)
        exact h_all c h_mem
      · exact absurd h_mem List.not_mem_nil
  intro c h_mem
  rcases List.mem_append.mp h_mem with h_mem | h_mem
  · exact UrlPath.isPathChar_of_isSchemeChar (h.scheme.chars c h_mem).1
  · exact UrlPath.isPathChar_cons UrlPath.isPathChar_colon h_server c h_mem

theorem Canonical.path_chars (h : Canonical u) :
    ∀ c ∈ u.path.toList, 0x20 ≤ c.toNat ∧ c ∉ "?#".toList := by
  intro c h_mem
  cases h.path with
  | rooted h_path =>
    obtain ⟨h_visible, h_mark⟩ := UrlPath.isPathChar_of_rooted h_path c h_mem
    exact ⟨Nat.le_of_lt h_visible, h_mark⟩
  | bare h_path =>
    rw [h_path] at h_mem
    exact absurd h_mem List.not_mem_nil
  | flat _ _ _ h_chars =>
    obtain ⟨h_controls, h_mark⟩ := h_chars c h_mem
    rw [Percent.inControls, Bool.or_eq_false_iff, decide_eq_false_iff_not] at h_controls
    exact ⟨Nat.not_lt.mp h_controls.1, h_mark⟩

/-- A base has no mark of a query or a fragment and no control character. -/
theorem Canonical.base_chars (h : Canonical u) :
    ∀ c ∈ u.base.toList, 0x20 ≤ c.toNat ∧ c ∉ "?#".toList := by
  intro c h_mem
  rw [toList_base, ← List.cons_append, ← List.append_assoc] at h_mem
  rcases List.mem_append.mp h_mem with h_mem | h_mem
  · obtain ⟨h_visible, h_mark⟩ := h.front_chars c h_mem
    exact ⟨Nat.le_of_lt h_visible, h_mark⟩
  · exact h.path_chars c h_mem

theorem Canonical.endsVisible_base (h : Canonical u) (h_query : u.query = none)
    (h_fragment : u.fragment = none) : EndsVisible u.base.toList := by
  rw [toList_base, ← List.cons_append, ← List.append_assoc]
  refine endsVisible_append (fun c h_mem => (h.front_chars c h_mem).1) ?_
  cases h.path with
  | rooted h_path =>
    exact endsVisible_of_forall fun c h_mem => (UrlPath.isPathChar_of_rooted h_path c h_mem).1
  | bare h_path =>
    rw [h_path]
    exact fun c h_c => nomatch h_c
  | flat _ _ _ _ h_last => exact h_last h_query h_fragment

/-- All of the text of a canonical address counts. -/
theorem Canonical.allCount (h : Canonical u) (h_tail : TailOf u tail) :
    AllCount (u.base.toList ++ tail) where
  first := by
    obtain ⟨c, rest, h_scheme, h_alpha⟩ := h.scheme.first
    intro d h_d
    rw [toList_base, h_scheme] at h_d
    obtain rfl := Option.some.inj h_d
    exact (UrlPath.isPathChar_of_isAlpha h_alpha).1
  last := by
    cases h_nil : tail with
    | nil =>
      obtain ⟨h_query, h_fragment⟩ := h_tail.ends h_nil
      rw [List.append_nil]
      exact h.endsVisible_base h_query h_fragment
    | cons c rest =>
      intro d h_d
      rw [List.getLast?_append_of_ne_nil _ (List.cons_ne_nil c rest), ← h_nil] at h_d
      exact h_tail.visible d (List.mem_of_getLast? h_d)
  all := by
    intro c h_mem
    rcases List.mem_append.mp h_mem with h_mem | h_mem
    · exact (h.base_chars c h_mem).1
    · exact Nat.le_of_lt (h_tail.visible c h_mem)

/-- A rooted path is read as it is. -/
theorem withPath_rooted {kind : SchemeKind} (h_file : kind ≠ .file) (scheme : String)
    (authority : Option Authority) {path : String} {rest : List Char}
    (h_path : UrlPath.Rooted kind.isSpecial path.toList.reverse)
    (h_rest : path.toList = '/' :: rest)
    (h_tail : ∀ c ∈ tail.head?, c ∈ "?#".toList) :
    withPath kind scheme authority "/" (rest ++ tail)
      = { scheme, authority, path
          query := (queryAndFragment kind tail).1
          fragment := (queryAndFragment kind tail).2 } := by
  have h_plain : UrlPath.Plain ([] ++ '/' :: rest) := by
    rw [List.nil_append, ← h_rest, ← List.reverse_reverse path.toList]
    exact h_path.plain
  have h_chars : ∀ c ∈ rest, c ∉ "?#".toList := fun c h_mem =>
    (UrlPath.isPathChar_of_rooted h_path c (h_rest ▸ List.mem_cons_of_mem '/' h_mem)).2
  have h_clean : kind.isSpecial = true → '\\' ∉ rest := by
    intro h_special h_mem
    refine h_path.clean h_special (List.mem_reverse.mpr ?_)
    rw [h_rest]
    exact List.mem_cons_of_mem '/' h_mem
  have h_read : UrlPath.extend kind.isSpecial false "/" rest = path := by
    rw [UrlPath.extend_of_plain (UrlPath.plain_append_slash.mp h_plain).2 h_clean,
      ← String.toList_inj, String.toList_append, String.toList_ofList, String.toList_ofList, h_rest]
    rfl
  rw [withPath, body_append h_chars h_tail]
  dsimp only
  rw [isFile_eq_false h_file, h_read]

/-- Nothing is read onto nothing. -/
theorem withPath_bare {kind : SchemeKind} (h_file : kind ≠ .file) (scheme : String)
    (authority : Option Authority) (h_tail : ∀ c ∈ tail.head?, c ∈ "?#".toList) :
    withPath kind scheme authority "" tail
      = { scheme, authority, path := ""
          query := (queryAndFragment kind tail).1
          fragment := (queryAndFragment kind tail).2 } := by
  have h_body : UrlPath.body ([] ++ tail) = ([], tail) :=
    body_append (fun c h_mem => absurd h_mem List.not_mem_nil) h_tail
  rw [List.nil_append] at h_body
  rw [withPath, h_body]
  dsimp only
  rw [isFile_eq_false h_file, UrlPath.extend_nil]

/-- On a canonical server the path, the query and the fragment are read as they are. -/
theorem onServer_path {a : Authority} (h : Canonical u) (h_a : u.authority = some a)
    (h_tail : ∀ c ∈ tail.head?, c ∈ "?#".toList) :
    onServer (.of u.scheme) u.scheme a (u.path.toList ++ tail) = u.withTail tail := by
  have h_whole : u.withTail tail = { u with
      authority := some a
      query := (queryAndFragment (.of u.scheme) tail).1
      fragment := (queryAndFragment (.of u.scheme) tail).2 } := by
    rw [withTail, h_a]
  cases h.path with
  | rooted h_path =>
    obtain ⟨rest, h_rest⟩ := List.head?_eq_some_iff.mp (UrlPath.head?_of_rooted h_path)
    have h_read := withPath_rooted h.kind u.scheme (some a) h_path h_rest h_tail
    rw [h_whole, ← h_read, h_rest, List.cons_append]
    cases h_kind : SchemeKind.of u.scheme with
    | special => rfl
    | file => exact absurd h_kind h.kind
    | other =>
      rw [onServer, if_pos (.inr (.inr rfl))]
      exact withPath_slash (by decide) _ _ _
  | bare h_path h_kind =>
    have h_read := withPath_bare h.kind u.scheme (some a) h_tail
    rw [h_whole, h_path, ← h_read, h_kind]
    cases tail with
    | nil => rfl
    | cons c rest =>
      have h_mark : c = '?' ∨ c = '#' ∨ c = '/' := by
        rcases List.mem_cons.mp (h_tail c rfl) with h_eq | h_mem
        · exact .inl h_eq
        · exact .inr (.inl (List.mem_singleton.mp h_mem))
      exact if_pos h_mark
  | flat _ _ h_server =>
    rw [h_server] at h_a
    cases h_a

/-- Behind two slashes the text of a canonical address is read on its server. -/
theorem behindSlashes_server {a : Authority} (h : Canonical u) (h_a : u.authority = some a)
    (h_tail : ∀ c ∈ tail.head?, c ∈ "?#".toList) :
    behindSlashes (.of u.scheme) u.scheme (a.render.toList ++ (u.path.toList ++ tail))
      = .ok (u.withTail tail) := by
  have h_head : ∀ c ∈ (u.path.toList ++ tail).head?, c ∈ "/?#".toList := by
    intro c h_c
    cases h.path with
    | rooted h_path =>
      rw [List.head?_append, UrlPath.head?_of_rooted h_path] at h_c
      obtain rfl := Option.some.inj h_c
      exact List.mem_cons_self
    | bare h_path =>
      rw [h_path] at h_c
      exact List.mem_cons_of_mem '/' (h_tail c h_c)
    | flat _ _ h_server =>
      rw [h_server] at h_a
      cases h_a
  rw [behindSlashes_render (h.authority a h_a) h_head, onServer_path h h_a h_tail]

/-- The text of an authority with a name does not start with a slash. -/
theorem dropWhile_slashes {a : Authority} (h : Canonical u) (h_a : u.authority = some a)
    (h_special : SchemeKind.of u.scheme = .special) (s : List Char) :
    ('/' :: '/' :: (a.render.toList ++ s)).dropWhile isSlash = a.render.toList ++ s := by
  have h_canonical := h.authority a h_a
  have h_ne : a.render.toList ≠ [] := by
    intro h_nil
    rw [toList_authority, List.append_eq_nil_iff, List.append_eq_nil_iff] at h_nil
    have h_other := (h_canonical.named (String.toList_eq_nil_iff.mp h_nil.2.1)).2.2
    rw [h_special] at h_other
    cases h_other
  obtain ⟨c, rest, h_text⟩ := List.exists_cons_of_ne_nil h_ne
  have h_c : isSlash c = false := by
    have h_clean := (clean_of_mem_render h_canonical (h_text ▸ List.mem_cons_self : c ∈ _)).2
    rw [isSlash, Bool.or_eq_false_iff, beq_eq_false_iff_ne, beq_eq_false_iff_ne]
    exact ⟨fun h_eq => h_clean (h_eq ▸ by decide), fun h_eq => h_clean (h_eq ▸ by decide)⟩
  have h_stop : ¬isSlash c = true := by
    rw [h_c]
    exact Bool.false_ne_true
  rw [h_text, List.cons_append]
  exact List.dropWhile_cons_of_neg h_stop

theorem behindScheme_slash {scheme : String} {s : List Char}
    (h_kind : SchemeKind.of scheme = .other) (h : s.head? ≠ some '/') :
    behindScheme none scheme ('/' :: s) = .ok (withPath .other scheme none "/" s) := by
  rw [behindScheme, h_kind]
  rintro rest rfl
  exact h rfl

theorem behindScheme_flat {scheme : String} {s : List Char} (h_kind : SchemeKind.of scheme = .other)
    (h : s.head? ≠ some '/') : behindScheme none scheme s = .ok (opaquePath scheme s) := by
  rw [behindScheme, h_kind]
  · rintro rest rfl
    exact h rfl
  · rintro rest rfl
    exact h rfl

/-- One dot as the first segment stands for nothing. -/
theorem withPath_dot (scheme : String) (s : List Char) :
    withPath .other scheme none "/" ('.' :: '/' :: s) = withPath .other scheme none "/" s := by
  have h_body : UrlPath.body ('.' :: '/' :: s)
      = ('.' :: '/' :: (UrlPath.body s).1, (UrlPath.body s).2) := rfl
  have h_path : ∀ written, UrlPath.extend false false "/" ('.' :: '/' :: written)
      = UrlPath.extend false false "/" written := by
    intro written
    have h_parts : Text.parts '/' ('.' :: '/' :: written) = ['.'] :: Text.parts '/' written := rfl
    obtain ⟨first, others, h_first⟩ := Text.exists_parts '/' written
    have h_slashed : ∀ s, UrlPath.slashed false s = s := fun s => rfl
    rw [← String.toList_inj, UrlPath.toList_extend, UrlPath.toList_extend, UrlPath.joined_eq,
      UrlPath.joined_eq, h_slashed, h_slashed, h_parts, h_first]
    rfl
  rw [withPath, h_body, withPath]
  exact congrArg (fun path => ({
    scheme, authority := none, path
    query := (queryAndFragment .other (UrlPath.body s).2).1
    fragment := (queryAndFragment .other (UrlPath.body s).2).2 } : Url)) (h_path _)

/-- A path from the root is read as it is, be it with the dot that sets it apart from a server or
    without. -/
theorem behindScheme_rooted (h_kind : SchemeKind.of u.scheme = .other) (h_none : u.authority = none)
    (h_path : UrlPath.Rooted SchemeKind.other.isSpecial u.path.toList.reverse)
    (h_tail : ∀ c ∈ tail.head?, c ∈ "?#".toList) :
    behindScheme none u.scheme (u.server.toList ++ u.path.toList ++ tail)
      = .ok (u.withTail tail) := by
  obtain ⟨rest, h_rest⟩ := List.head?_eq_some_iff.mp (UrlPath.head?_of_rooted h_path)
  have h_read : withPath .other u.scheme none "/" (rest ++ tail) = u.withTail tail := by
    rw [withPath_rooted (by decide) u.scheme none h_path h_rest h_tail, withTail, h_none, h_kind]
  rw [server, h_none]
  dsimp only
  split
  · have h_text : "/.".toList ++ u.path.toList ++ tail = '/' :: '.' :: '/' :: (rest ++ tail) := by
      rw [h_rest]
      rfl
    rw [h_text, behindScheme_slash h_kind (by simp), withPath_dot, h_read]
  · rename_i h_single
    have h_text : "".toList ++ u.path.toList ++ tail = '/' :: (rest ++ tail) := by
      rw [h_rest]
      rfl
    have h_first : (rest ++ tail).head? ≠ some '/' := by
      cases rest with
      | nil => exact fun h_slash => absurd (h_tail '/' h_slash) (by decide)
      | cons c others =>
        rintro h_slash
        obtain rfl : c = '/' := Option.some.inj h_slash
        rw [h_rest] at h_single
        exact h_single rfl
    rw [h_text, behindScheme_slash h_kind h_first, h_read]

/-- A path without a hierarchy is read as it is. -/
theorem behindScheme_opaque (h_kind : SchemeKind.of u.scheme = .other) (h_none : u.authority = none)
    (h_first : u.path.toList.head? ≠ some '/')
    (h_chars : ∀ c ∈ u.path.toList, Percent.inControls c = false ∧ c ∉ "?#".toList)
    (h_tail : ∀ c ∈ tail.head?, c ∈ "?#".toList) :
    behindScheme none u.scheme (u.server.toList ++ u.path.toList ++ tail)
      = .ok (u.withTail tail) := by
  have h_head : (u.path.toList ++ tail).head? ≠ some '/' := by
    cases h_path : u.path.toList with
    | nil => exact fun h_slash => absurd (h_tail '/' h_slash) (by decide)
    | cons c rest =>
      rw [h_path] at h_first
      exact h_first
  have h_server : u.server = "" := by
    rw [server, h_none]
    refine if_neg fun h_slashes => ?_
    obtain ⟨rest, h_rest⟩ := List.isPrefixOf_iff_prefix.mp h_slashes
    rw [← h_rest] at h_first
    exact h_first rfl
  rw [h_server]
  show behindScheme none u.scheme (u.path.toList ++ tail) = _
  rw [behindScheme_flat h_kind h_head, opaquePath,
    body_append (fun c h_mem => (h_chars c h_mem).2) h_tail]
  dsimp only
  rw [Percent.encode_eq_self fun c h_mem => (h_chars c h_mem).1, String.ofList_toList, withTail,
    h_none, h_kind]

/-- The text of a canonical address without a server is read as the address. -/
theorem behindScheme_path (h : Canonical u) (h_none : u.authority = none)
    (h_tail : ∀ c ∈ tail.head?, c ∈ "?#".toList) :
    behindScheme none u.scheme (u.server.toList ++ u.path.toList ++ tail)
      = .ok (u.withTail tail) := by
  have h_no_server : ¬u.authority.isSome = true := by
    rw [h_none]
    exact Bool.false_ne_true
  have h_kind : SchemeKind.of u.scheme = .other := h.server.resolve_right h_no_server
  cases h.path with
  | rooted h_path =>
    rw [h_kind] at h_path
    exact behindScheme_rooted h_kind h_none h_path h_tail
  | bare _ _ h_server => exact absurd h_server h_no_server
  | flat h_first _ _ h_chars => exact behindScheme_opaque h_kind h_none h_first h_chars h_tail

/-- A text of which the base of a canonical address and a tail count is read as the address with
    this tail. -/
theorem parse_of_significant (h : Canonical u)
    (h_significant : significant text = u.base.toList ++ tail)
    (h_mark : ∀ c ∈ tail.head?, c ∈ "?#".toList) : parse text = .ok (u.withTail tail) := by
  have h_scheme := scheme?_append h.scheme (u.server.toList ++ u.path.toList ++ tail)
  have h_read : parse text
      = behindScheme none u.scheme (u.server.toList ++ u.path.toList ++ tail) := by
    rw [parse, read, h_significant, toList_base, List.append_assoc, List.cons_append, h_scheme]
  rw [h_read]
  cases h_a : u.authority with
  | none => exact behindScheme_path h h_a h_mark
  | some a =>
    have h_server : u.server.toList ++ u.path.toList ++ tail
        = '/' :: '/' :: (a.render.toList ++ (u.path.toList ++ tail)) := by
      rw [server, h_a]
      dsimp only
      rw [String.toList_append, List.append_assoc, List.append_assoc]
      rfl
    rw [h_server, ← behindSlashes_server h h_a h_mark, behindScheme]
    cases h_kind : SchemeKind.of u.scheme with
    | special =>
      dsimp only [Option.filter]
      rw [dropWhile_slashes h h_a h_kind]
    | file => exact absurd h_kind h.kind
    | other => rfl

theorem baseOf_of_parse (h : parse text = .ok (u.withTail tail)) : baseOf text = u.base := by
  rw [baseOf, splitQuery, h]
  rfl

-- ============================================================================
-- Files
-- ============================================================================

theorem toList_base_file {host : String} (h_scheme : u.scheme = "file")
    (h_authority : u.authority = some { userinfo := "", host, port := none }) :
    u.base.toList = "file".toList ++ ':' :: '/' :: '/' :: (host.toList ++ u.path.toList) := by
  rw [toList_base, h_scheme, server, h_authority]
  dsimp only
  rw [String.toList_append, toList_authority]
  simp only [portText, List.append_nil, List.append_assoc]
  rfl

/-- The text of the address of a file has its host and its path behind two slashes. -/
theorem CanonicalFile.exists_before (h : CanonicalFile u) : ∃ (host : String) (path : List Char),
    u.authority = some { userinfo := "", host, port := none } ∧ FileHost host
      ∧ u.path.toList = '/' :: path
      ∧ u.base.toList = "file".toList ++ ':' :: '/' :: '/' :: (host.toList ++ '/' :: path) := by
  obtain ⟨host, h_authority, h_host⟩ := h.authority
  obtain ⟨path, h_path⟩ := List.head?_eq_some_iff.mp (UrlPath.head?_of_rooted h.path)
  refine ⟨host, path, h_authority, h_host, h_path, ?_⟩
  rw [toList_base_file h.scheme h_authority, h_path]

/-- The text of the address of a file is visible and has no mark of a query or a fragment. -/
theorem CanonicalFile.base_chars (h : CanonicalFile u) :
    ∀ c ∈ u.base.toList, UrlPath.IsPathChar c := by
  obtain ⟨host, path, -, h_host, h_path, h_base⟩ := h.exists_before
  have h_front : ∀ c ∈ "file://".toList, 0x20 < c.toNat ∧ c ∉ "?#".toList :=
    Text.forall_mem_of_all (by decide)
  intro c h_mem
  rw [h_base, ← h_path] at h_mem
  rcases List.mem_append.mp (show c ∈ "file://".toList ++ (host.toList ++ u.path.toList) from h_mem)
    with h_mem | h_mem
  · exact h_front c h_mem
  · rcases List.mem_append.mp h_mem with h_mem | h_mem
    · exact isPathChar_of_clean (h_host.clean c h_mem)
    · exact UrlPath.isPathChar_of_rooted h.path c h_mem

theorem schemeText_file : SchemeText "file" :=
  ⟨⟨'f', "ile".toList, rfl, by decide⟩, Text.forall_mem_of_all (by decide)⟩

/-- A text of which the address of a file counts is read behind the two slashes. -/
theorem parse_file_of_significant {s : List Char}
    (h : significant text = "file".toList ++ ':' :: '/' :: '/' :: s) :
    parse text = fileBehindSlashes s := by
  rw [parse, read, h, scheme?_append schemeText_file]
  rfl

/-- With a loose drive the text of the address of a file is read as another address. -/
theorem CanonicalFile.base_fileOnHost_ne (h : CanonicalFile u) (h_loose : u.LooseDrive)
    {host : String} {path : List Char} (h_host : FileHost host)
    (h_authority : u.authority = some { userinfo := "", host, port := none })
    (h_path : u.path.toList = '/' :: path) : (fileOnHost host path).base ≠ u.base := by
  obtain ⟨-, h_drive, h_not⟩ := h_loose
  obtain ⟨h_plain, h_clean⟩ := h.path_behind h_path
  rw [h_path, List.drop_one, List.tail_cons] at h_drive
  obtain ⟨letter, mark, more, rfl, h_drive, h_letter, h_more⟩ := UrlPath.exists_drive h_drive
  have h_behind : '\\' ∉ more := fun h_mem =>
    h_clean (List.mem_cons_of_mem _ (List.mem_cons_of_mem _ h_mem))
  rw [fileOnHost_drive host h_drive h_more h_plain h_behind]
  intro h_eq
  have h_text := congrArg String.toList h_eq
  have h_read : (String.ofList ('/' :: letter :: ':' :: more)).toList
      = '/' :: letter :: ':' :: more := String.toList_ofList
  rw [toList_base_file rfl rfl, toList_base_file h.scheme h_authority, h_path] at h_text
  dsimp only at h_text
  rw [h_read] at h_text
  have h_rest : '/' :: letter :: ':' :: more = host.toList ++ '/' :: letter :: mark :: more :=
    List.append_cancel_left (show "file://".toList ++ _ = "file://".toList ++ _ from h_text)
  cases h_name : host.toList with
  | nil =>
    rw [h_name] at h_rest
    obtain rfl : ':' = mark := (List.cons.inj (List.cons.inj (List.cons.inj h_rest).2).2).1
    refine h_not ⟨?_, fun a h_a => ?_⟩
    · rw [h_path]
      exact UrlPath.leadsToDrive_colon h_letter h_more
    · rw [h_authority] at h_a
      rw [← Option.some.inj h_a]
      exact String.toList_eq_nil_iff.mp h_name
  | cons c others =>
    rw [h_name] at h_rest
    obtain rfl := (List.cons.inj h_rest).1
    exact (h_host.clean '/' (h_name ▸ List.mem_cons_self)).2 (by decide)

/-- What stands behind the base of the address of a file changes nothing before it, and that is
    read as it is exactly if its drive is not loose. -/
theorem CanonicalFile.exists_site (h : CanonicalFile u) : ∃ site : Url,
    (∀ {text : String} {tail : List Char}, significant text = u.base.toList ++ tail →
      (∀ c ∈ tail.head?, c ∈ "?#".toList) → parse text = .ok (site.withTail tail))
    ∧ (¬u.LooseDrive → ∀ tail, site.withTail tail = u.withTail tail)
    ∧ (u.LooseDrive → site.base ≠ u.base) := by
  obtain ⟨host, path, h_authority, h_host, h_path, h_base⟩ := h.exists_before
  refine ⟨fileOnHost host path, fun {text tail} h_significant h_mark => ?_,
    fun h_settled tail => ?_, fun h_loose => h.base_fileOnHost_ne h_loose h_host h_authority h_path⟩
  · have h_whole : significant text
        = "file".toList ++ ':' :: '/' :: '/' :: (host.toList ++ '/' :: (path ++ tail)) := by
      rw [h_significant, h_base, List.append_assoc, List.cons_append, List.cons_append,
        List.cons_append, List.append_assoc, List.cons_append]
    have h_marks : ∀ c ∈ path, c ∉ "?#".toList := fun c h_mem =>
      (UrlPath.isPathChar_of_rooted h.path c (h_path ▸ List.mem_cons_of_mem '/' h_mem)).2
    rw [parse_file_of_significant h_whole, fileBehindSlashes_host h_host,
      fileOnHost_append host h_marks h_mark]
  · rw [h.fileOnHost_self h_settled h_authority h_path]
    rfl

-- ============================================================================
-- Addresses that were read
-- ============================================================================

theorem Written.base_marks (h : Written u) : ∀ c ∈ u.base.toList, c ∉ "?#".toList := by
  cases h with
  | server h => exact fun c h_mem => (h.base_chars c h_mem).2
  | file h => exact fun c h_mem => (h.base_chars c h_mem).2

theorem Written.allCount (h : Written u) (h_tail : TailOf u tail) :
    AllCount (u.base.toList ++ tail) := by
  cases h with
  | server h => exact h.allCount h_tail
  | file h =>
    exact .of_forall (List.forall_mem_append.mpr
      ⟨fun c h_mem => (h.base_chars c h_mem).1, h_tail.visible⟩)

/-- Whatever stands behind the base of an address that was read is read as its query and its
    fragment, and the address before it as itself, unless it is a file with a loose drive. -/
theorem Written.exists_site (h : Written u) : ∃ site : Url,
    (∀ {text : String} {tail : List Char}, significant text = u.base.toList ++ tail →
      (∀ c ∈ tail.head?, c ∈ "?#".toList) → parse text = .ok (site.withTail tail))
    ∧ (¬u.LooseDrive → ∀ tail, site.withTail tail = u.withTail tail)
    ∧ (u.LooseDrive → site.base ≠ u.base) := by
  cases h with
  | server h =>
    refine ⟨u, parse_of_significant h, fun _ _ => rfl, fun h_loose => absurd ?_ h.kind⟩
    rw [h_loose.1]
    rfl
  | file h => exact h.exists_site

end Url
end PageObjects
