/-
  PageObjects.Proofs.Url.File

  Addresses of local files. Each part of such an address that was read is written the
  way it is read, but for one thing: the letter of a drive that starts the path leaves
  no host and has a colon behind it once it is read, and after some leading slashes it
  may stand there without having been read as such.

    * `canonicalFile_file`: the addresses of files that are read.
    * `fileBehindSlashes_append`: a query or a fragment changes nothing before it.
    * `fileOnHost_self`: the path of a file is read as it is, unless its drive is loose.
-/

import PageObjects.Proofs.Url.Path
import PageObjects.Proofs.Url.Host

namespace PageObjects

-- ============================================================================
-- Paths
-- ============================================================================

namespace UrlPath

/-- The character is visible and stands in no other part of an address than the path. -/
def IsPathChar (c : Char) : Prop :=
  0x20 < c.toNat ∧ c ∉ "?#".toList

variable {path : List Char} {c : Char}

theorem isPathChar_of_inPath (h : Percent.inPath c = false) : IsPathChar c := by
  obtain ⟨h_visible, h_hash, h_mark⟩ := Url.visible_of_inPath h
  refine ⟨h_visible, fun h_mem => ?_⟩
  rcases List.mem_cons.mp h_mem with h_eq | h_mem
  · exact h_mark h_eq
  · exact h_hash (List.mem_singleton.mp h_mem)

theorem isPathChar_of_isSchemeChar (h : Url.isSchemeChar c = true) : IsPathChar c := by
  refine Text.of_ascii (motive := fun c => Url.isSchemeChar c = true →
    0x20 < c.toNat ∧ c ∉ "?#".toList) ?_ (Url.ascii_of_isSchemeChar h) h
  decide

theorem isPathChar_of_isAlpha (h : c.isAlpha = true) : IsPathChar c :=
  isPathChar_of_isSchemeChar (Url.isSchemeChar_of_isAlpha h)

theorem isPathChar_cons {mark : Char} (h_mark : IsPathChar mark) (h : ∀ c ∈ path, IsPathChar c) :
    ∀ c ∈ mark :: path, IsPathChar c :=
  List.forall_mem_cons.mpr ⟨h_mark, h⟩

theorem isPathChar_colon : IsPathChar ':' := by
  rw [IsPathChar]
  decide

theorem isPathChar_of_rooted {isSpecial : Bool} {path : String}
    (h : Rooted isSpecial path.toList.reverse) : ∀ c ∈ path.toList, IsPathChar c := by
  have h_plain := h.plain
  rw [List.reverse_reverse] at h_plain
  exact fun c h_mem => isPathChar_of_inPath (h_plain.encoded c h_mem)

end UrlPath

-- ============================================================================
-- Addresses of files
-- ============================================================================

namespace Url

variable {s : List Char} {u : Url} {host : String}

/-- The text of the host of a file: it is read as itself, and that of the own host is empty. -/
inductive FileHost : String → Prop
  | own : FileHost ""
  | other {host : String} (h_host : Host.Rereads Host.parseSpecial host) (h_ne : host ≠ "")
      (h_own : host ≠ "localhost") : FileHost host

theorem FileHost.clean (h : FileHost host) : ∀ c ∈ host.toList,
    0x20 < c.toNat ∧ c ∉ "/\\?#".toList := by
  cases h with
  | own => exact fun c h_mem => absurd h_mem List.not_mem_nil
  | other h_host =>
    intro c h_mem
    obtain ⟨h_visible, h_clean⟩ := h_host.clean c h_mem
    exact ⟨h_visible, Host.not_mem_ends h_clean⟩

theorem fileHost_of_read (h : fileHost s = .ok host) : FileHost host := by
  rw [fileHost] at h
  split at h
  · obtain rfl := Except.ok.inj h
    exact .own
  · cases h_read : Host.parseSpecial s with
    | error e => rw [h_read] at h; cases h
    | ok name =>
      rw [h_read] at h
      obtain rfl := Except.ok.inj h
      obtain ⟨h_rereads, h_ne⟩ := Host.rereads_parseSpecial h_read
      dsimp only
      split
      · exact .own
      · rename_i h_own
        exact .other h_rereads h_ne h_own

/-- The host of a file is read as itself. -/
theorem FileHost.reads (h : FileHost host) : fileHost host.toList = .ok host := by
  cases h with
  | own => rfl
  | other h_host h_ne h_own =>
    have h_text : host.toList.isEmpty = false := by
      rw [Bool.eq_false_iff]
      exact fun h_nil => h_ne (String.toList_eq_nil_iff.mp (List.isEmpty_iff.mp h_nil))
    rw [fileHost, h_text, if_neg Bool.false_ne_true, h_host.reads]
    exact congrArg Except.ok (if_neg h_own)

/-- No host is the letter of a drive: a colon ends it, and a bar stands in none. -/
theorem FileHost.not_drive (h : FileHost host) : UrlPath.isDrive host.toList = false := by
  rw [Bool.eq_false_iff]
  intro h_drive
  cases h with
  | own => cases h_drive
  | other h_host =>
    obtain ⟨letter, mark, h_text, h_letter⟩ := UrlPath.isDrive_eq h_drive
    rw [h_text, UrlPath.isDrive, Bool.and_eq_true, Bool.or_eq_true, beq_iff_eq,
      beq_iff_eq] at h_drive
    have h_reads := h_host.reads
    have h_open : '[' ∉ host.toList := by
      intro h_mem
      rw [h_text] at h_mem
      rcases List.mem_cons.mp h_mem with h_eq | h_mem
      · rw [← h_eq] at h_letter
        exact absurd h_letter (by decide)
      · rw [← List.mem_singleton.mp h_mem] at h_drive
        exact absurd h_drive.2 (by decide)
    have h_settled := Host.settled_of_parseSpecial h_open h_reads
    have h_mark : mark ∈ host.toList := by
      rw [h_text]
      exact List.mem_cons_of_mem _ List.mem_cons_self
    rcases h_drive.2 with rfl | rfl
    · exact (h_settled _ h_mark).ne (by decide) rfl
    · exact (h_settled _ h_mark).ne (by decide) rfl

/-- Each part of the address of a file is written as it is read, the letter of a drive apart. -/
structure CanonicalFile (u : Url) : Prop where
  scheme : u.scheme = "file"
  authority : ∃ host, u.authority = some { userinfo := "", host, port := none } ∧ FileHost host
  path : UrlPath.Rooted true u.path.toList.reverse
  slash : (u.path.toList.drop 1).head? ≠ some '/'
  tail : CleanTail (.of u.scheme) u.query u.fragment

theorem CanonicalFile.with_tail (h : CanonicalFile u) {query fragment : Option String}
    (h_tail : CleanTail (.of u.scheme) query fragment) : CanonicalFile { u with query, fragment } :=
  ⟨h.scheme, h.authority, h.path, h.slash, h_tail⟩

theorem canonicalFile_withPath {authority : Option Authority}
    (h_authority : ∃ host, authority = some { userinfo := "", host, port := none } ∧ FileHost host)
    {start : String} (h_start : UrlPath.Rooted true start.toList.reverse)
    (h_open : UrlPath.IsOpen true start.toList.reverse) (s : List Char) :
    CanonicalFile (withPath .file "file" authority start s) :=
  ⟨rfl, h_authority, UrlPath.rooted_extend h_start h_open _, UrlPath.head?_extend_file true _ _,
    cleanTail_queryAndFragment _ _⟩

theorem canonicalFile_fileOn (h_host : FileHost host) {start : String}
    (h_start : UrlPath.Rooted true start.toList.reverse)
    (h_open : UrlPath.IsOpen true start.toList.reverse) (s : List Char) :
    CanonicalFile (fileOn host start s) :=
  canonicalFile_withPath ⟨host, rfl, h_host⟩ h_start h_open s

theorem canonicalFile_root (h_host : FileHost host) (s : List Char) :
    CanonicalFile (fileOn host "/" s) :=
  canonicalFile_fileOn h_host (UrlPath.rooted_slash true) (UrlPath.isOpen_slash true []) s

/-- A slash or a backslash at the start of a text may also be read before it. -/
theorem withPath_isSlash {c : Char} (h : isSlash c = true) (scheme : String)
    (authority : Option Authority) (s : List Char) :
    withPath .file scheme authority "" (c :: s) = withPath .file scheme authority "/" s := by
  have h_slash : c = '/' ∨ c = '\\' := by
    rwa [isSlash, Bool.or_eq_true, beq_iff_eq, beq_iff_eq] at h
  have h_body : UrlPath.body (c :: s) = (c :: (UrlPath.body s).1, (UrlPath.body s).2) := by
    rcases h_slash with rfl | rfl <;> rfl
  have h_path : UrlPath.extend true true "" (c :: (UrlPath.body s).1)
      = UrlPath.extend true true "/" (UrlPath.body s).1 := by
    rcases h_slash with rfl | rfl
    · exact UrlPath.extend_slash true true _
    · exact UrlPath.extend_slash true true _
  rw [withPath, h_body, withPath]
  exact congrArg (fun path => ({
    scheme, authority, path
    query := (queryAndFragment .file (UrlPath.body s).2).1
    fragment := (queryAndFragment .file (UrlPath.body s).2).2 } : Url)) h_path

theorem canonicalFile_fileOnHost (h_host : FileHost host) (s : List Char) :
    CanonicalFile (fileOnHost host s) := by
  rw [fileOnHost]
  split
  · exact canonicalFile_root .own s
  · exact canonicalFile_root h_host s

theorem canonicalFile_fileBehindSlashes (h : fileBehindSlashes s = .ok u) : CanonicalFile u := by
  unfold fileBehindSlashes at h
  dsimp only at h
  split at h
  · obtain rfl := Except.ok.inj h
    exact canonicalFile_root .own s
  · cases h_host : fileHost (s.takeWhile fun c => !(isSlash c || c == '?' || c == '#')) with
    | error e => rw [h_host] at h; cases h
    | ok host =>
      rw [h_host] at h
      have h_onHost := canonicalFile_fileOnHost (fileHost_of_read h_host)
      cases h_rest : s.dropWhile fun c => !(isSlash c || c == '?' || c == '#') with
      | nil =>
        rw [h_rest] at h
        obtain rfl := Except.ok.inj h
        exact h_onHost []
      | cons c behind =>
        rw [h_rest] at h
        obtain rfl := Except.ok.inj h
        exact h_onHost _

theorem canonicalFile_fileBehindSlash {base : Option Url} (h_base : ∀ b ∈ base, CanonicalFile b)
    {c : Char} (h_slash : isSlash c = true) (s : List Char) :
    CanonicalFile (fileBehindSlash base (c :: s)) := by
  have h_root : ∀ {host}, FileHost host → CanonicalFile (fileOn host "" (c :: s)) := by
    intro host h_host
    rw [fileOn, withPath_isSlash h_slash]
    exact canonicalFile_root h_host s
  cases base with
  | none => exact h_root .own
  | some base =>
    obtain ⟨host, h_authority, h_host⟩ := (h_base base rfl).authority
    rw [fileBehindSlash, h_authority]
    dsimp only [Option.map, Option.getD]
    split
    · exact h_root .own
    · split
      · rename_i h_drive
        have h_start :
            ("/" ++ String.ofList ((base.path.toList.drop 1).takeWhile (· != '/'))).toList
            = '/' :: (base.path.toList.drop 1).takeWhile (· != '/') := by
          rw [String.toList_append]
          exact congrArg ('/' :: ·) String.toList_ofList
        refine canonicalFile_fileOn .own ?_ ?_ _
        · rw [h_start]
          exact UrlPath.rooted_drive true h_drive
        · rw [h_start]
          exact UrlPath.isOpen_drive h_drive
      · exact h_root h_host

theorem canonicalFile_below {base : Option Url} (h_base : ∀ b ∈ base, CanonicalFile b)
    (h : file.below base s = .ok u) : CanonicalFile u := by
  cases base with
  | none =>
    obtain rfl := Except.ok.inj h
    exact canonicalFile_root .own s
  | some base =>
    have h_base := h_base base rfl
    rw [file.below] at h
    dsimp only at h
    split at h
    · rename_i h_same
      obtain rfl := Except.ok.inj h
      unfold sameDocument? at h_same
      split at h_same
      · obtain rfl := Option.some.inj h_same
        exact h_base.with_tail ⟨h_base.tail.query, fun text h_text => nomatch h_text⟩
      · rename_i rest
        obtain rfl := Option.some.inj h_same
        exact h_base.with_tail (cleanTail_queryAndFragment (.of base.scheme) ('?' :: rest))
      · rename_i rest
        obtain rfl := Option.some.inj h_same
        exact h_base.with_tail ⟨h_base.tail.query,
          (cleanTail_queryAndFragment (.of base.scheme) ('#' :: rest)).fragment⟩
      · cases h_same
    · split at h
      · obtain rfl := Except.ok.inj h
        exact canonicalFile_root .own s
      · obtain rfl := Except.ok.inj h
        obtain ⟨h_start, h_open⟩ := h_base.path.dropLast
        rw [h_base.scheme]
        refine canonicalFile_withPath h_base.authority ?_ ?_ s
        · rw [String.toList_ofList, List.reverse_reverse]
          exact h_start
        · rw [String.toList_ofList, List.reverse_reverse]
          exact h_open

/-- The address of a file that is read is canonical. -/
theorem canonicalFile_file {base : Option Url} (h_base : ∀ b ∈ base, CanonicalFile b)
    (h : file base s = .ok u) : CanonicalFile u := by
  unfold file at h
  split at h
  · split at h
    · exact canonicalFile_fileBehindSlashes h
    · split at h
      · rename_i h_slash
        obtain rfl := Except.ok.inj h
        exact canonicalFile_fileBehindSlash h_base h_slash _
      · exact canonicalFile_below h_base h
  · split at h
    · rename_i h_slash
      obtain rfl := Except.ok.inj h
      exact canonicalFile_fileBehindSlash h_base h_slash []
    · exact canonicalFile_below h_base h
  · exact canonicalFile_below h_base h

-- ============================================================================
-- What a query changes
-- ============================================================================

/-- A query or a fragment behind a path is that of the address. -/
theorem withPath_append {kind : SchemeKind} {scheme : String} (h_kind : kind = .of scheme)
    {authority : Option Authority} {start : String} {path tail : List Char}
    (h_path : ∀ c ∈ path, c ∉ "?#".toList) (h_tail : ∀ c ∈ tail.head?, c ∈ "?#".toList) :
    withPath kind scheme authority start (path ++ tail)
      = (withPath kind scheme authority start path).withTail tail := by
  have h_body := body_append h_path mark_of_nil
  rw [List.append_nil] at h_body
  rw [withPath, withPath, body_append h_path h_tail, h_body, h_kind]
  rfl

/-- A query or a fragment behind the path of a file changes nothing before it. -/
theorem fileOnHost_append (host : String) {path tail : List Char}
    (h_path : ∀ c ∈ path, c ∉ "?#".toList) (h_tail : ∀ c ∈ tail.head?, c ∈ "?#".toList) :
    fileOnHost host (path ++ tail) = (fileOnHost host path).withTail tail := by
  have h_body := body_append h_path mark_of_nil
  rw [List.append_nil] at h_body
  rw [fileOnHost, fileOnHost, body_append h_path h_tail, h_body]
  exact withPath_append rfl h_path h_tail

-- ============================================================================
-- Reading again
-- ============================================================================

/-- The host of a file ends at the slash before the path. -/
theorem fileBehindSlashes_host (h : FileHost host) (rest : List Char) :
    fileBehindSlashes (host.toList ++ '/' :: rest) = .ok (fileOnHost host rest) := by
  have h_in : ∀ c ∈ host.toList, (!(isSlash c || c == '?' || c == '#')) = true := by
    intro c h_mem
    have h_not := (h.clean c h_mem).2
    have h_ne : ∀ mark ∈ "/\\?#".toList, (c == mark) = false := fun mark h_mark =>
      beq_eq_false_iff_ne.mpr fun h_eq => h_not (h_eq ▸ h_mark)
    rw [isSlash, h_ne '/' (by decide), h_ne '\\' (by decide), h_ne '?' (by decide),
      h_ne '#' (by decide)]
    rfl
  have h_stop : ∀ c ∈ ('/' :: rest).head?, (!(isSlash c || c == '?' || c == '#')) = false := by
    intro c h_c
    obtain rfl := Option.some.inj h_c
    rfl
  have h_take := Text.takeWhile_append_of_stop h_in h_stop
  have h_drop := Text.dropWhile_append_of_stop h_in h_stop
  unfold fileBehindSlashes
  rw [startsWithDrive]
  dsimp only
  rw [h_take, h_drop, h.not_drive, if_neg Bool.false_ne_true, h.reads]
  rfl

/-- The path of a file starts with the letter of a drive that reading changes: there is a host,
    which the drive leaves out, or no colon behind the letter. -/
def LooseDrive (u : Url) : Prop :=
  u.scheme = "file" ∧ UrlPath.isDrive ((u.path.toList.drop 1).takeWhile (· != '/')) = true
    ∧ ¬(UrlPath.leadsToDrive u.path.toList = true ∧ ∀ a ∈ u.authority, a.host = "")

theorem not_looseDrive (h : SchemeKind.of u.scheme ≠ .file) : ¬u.LooseDrive := by
  rintro ⟨h_file, -⟩
  refine h ?_
  rw [h_file]
  rfl

theorem CanonicalFile.path_behind (h : CanonicalFile u) {rest : List Char}
    (h_path : u.path.toList = '/' :: rest) : UrlPath.Plain rest ∧ '\\' ∉ rest := by
  have h_whole := h.path.plain
  rw [List.reverse_reverse, h_path] at h_whole
  exact ⟨(UrlPath.plain_append_slash (a := []).mp h_whole).2, fun h_mem => h.path.clean rfl
    (List.mem_reverse.mpr (h_path ▸ List.mem_cons_of_mem '/' h_mem))⟩

/-- The path of a file is read as it is, unless its drive is loose. -/
theorem CanonicalFile.fileOnHost_self (h : CanonicalFile u) (h_settled : ¬u.LooseDrive)
    {rest : List Char} (h_authority : u.authority = some { userinfo := "", host, port := none })
    (h_path : u.path.toList = '/' :: rest) :
    fileOnHost host rest = { u with query := none, fragment := none } := by
  obtain ⟨h_plain, h_clean⟩ := h.path_behind h_path
  have h_marks : ∀ c ∈ rest, c ∉ "?#".toList := fun c h_mem =>
    (UrlPath.isPathChar_of_rooted h.path c (h_path ▸ List.mem_cons_of_mem '/' h_mem)).2
  have h_drive : UrlPath.isDrive (rest.takeWhile (· != '/')) = true →
      UrlPath.leadsToDrive ('/' :: rest) = true ∧ host = "" := by
    intro h_drive
    have h_not : ¬¬(UrlPath.leadsToDrive u.path.toList = true ∧ ∀ a ∈ u.authority, a.host = "") :=
      fun h_loose => h_settled ⟨h.scheme, by rw [h_path]; exact h_drive, h_loose⟩
    obtain ⟨h_leads, h_host⟩ := Classical.not_not.mp h_not
    rw [h_path] at h_leads
    rw [h_authority] at h_host
    exact ⟨h_leads, h_host _ rfl⟩
  have h_joined : UrlPath.joined true true "/" rest = '/' :: rest :=
    UrlPath.joined_of_plain h_plain (fun _ => h_clean) (fun _ => ⟨[], rfl⟩)
      fun _ _ h_first => (h_drive h_first).1
  have h_extend : UrlPath.extend true true "/" rest = u.path := by
    have h_slash := h.slash
    rw [← String.toList_inj, UrlPath.toList_extend_file, h_joined, h_path]
    rw [h_path] at h_slash
    cases rest with
    | nil => rfl
    | cons c others =>
      have h_c : (c == '/') = false := beq_eq_false_iff_ne.mpr fun h_eq => h_slash (h_eq ▸ rfl)
      rw [List.dropWhile_cons_of_pos rfl, List.dropWhile_cons, h_c, if_neg Bool.false_ne_true]
  have h_body : UrlPath.body rest = (rest, []) := by
    have h_append := body_append h_marks mark_of_nil
    rwa [List.append_nil] at h_append
  have h_host : (if UrlPath.leadsToDrive ('/' :: rest) then "" else host) = host := by
    split
    · rename_i h_leads
      exact (h_drive (UrlPath.isDrive_of_isNormalDrive h_leads)).2.symm
    · rfl
  rw [fileOnHost, h_body]
  dsimp only
  rw [h_joined, h_host, fileOn, withPath, h_body]
  show Url.mk "file" _ (UrlPath.extend true true "/" rest) none none = _
  rw [h_extend, ← h.scheme, ← h_authority]

/-- A path that starts with the letter of a drive leaves out the host, and a colon follows the
    letter. -/
theorem fileOnHost_drive (host : String) {letter mark : Char} {more : List Char}
    (h_drive : UrlPath.isDrive [letter, mark] = true) (h_more : ∀ c ∈ more.head?, c = '/')
    (h_plain : UrlPath.Plain (letter :: mark :: more)) (h_clean : '\\' ∉ more) :
    fileOnHost host (letter :: mark :: more)
      = { scheme := "file", authority := some { userinfo := "", host := "", port := none }
          path := String.ofList ('/' :: letter :: ':' :: more)
          query := none, fragment := none } := by
  have h_letter := (Bool.and_eq_true_iff.mp h_drive).1
  have h_body : UrlPath.body (letter :: mark :: more) = (letter :: mark :: more, []) := by
    have h_marks : ∀ c ∈ letter :: mark :: more, c ∉ "?#".toList := fun c h_mem =>
      (UrlPath.isPathChar_of_inPath (h_plain.encoded c h_mem)).2
    have h_append := body_append h_marks mark_of_nil
    rwa [List.append_nil] at h_append
  have h_joined := UrlPath.joined_drive h_drive h_more h_plain h_clean
  have h_leads := UrlPath.leadsToDrive_colon h_letter h_more
  have h_extend : UrlPath.extend true true "/" (letter :: mark :: more)
      = String.ofList ('/' :: letter :: ':' :: more) := by
    have h_first : (letter == '/') = false := by
      rw [beq_eq_false_iff_ne]
      rintro rfl
      exact absurd h_letter (by decide)
    rw [← String.toList_inj, UrlPath.toList_extend_file, h_joined, String.toList_ofList,
      List.dropWhile_cons_of_pos rfl, List.dropWhile_cons, h_first, if_neg Bool.false_ne_true]
  rw [fileOnHost, h_body]
  dsimp only
  rw [h_joined, h_leads, if_pos rfl, fileOn, withPath, h_body]
  show Url.mk "file" _ (UrlPath.extend true true "/" (letter :: mark :: more)) none none = _
  rw [h_extend]

end Url
end PageObjects
