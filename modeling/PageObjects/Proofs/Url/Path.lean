/-
  PageObjects.Proofs.Url.Path

  Paths that stand for themselves. A path is plain if no segment of it is a dot
  segment and no character of it needs encoding. Every path that was read is plain,
  and a plain path is read as it is; so reading a path that was read changes nothing.
  In the address of a local file that holds unless the path starts with the letter of
  a drive.

    * `addSegment_keeps`: reading a segment keeps the path so far plain.
    * `rooted_extend`: a path that was read is plain.
    * `joined_of_plain`: a plain path is read as it is.
-/

import Mathlib.Data.List.Basic
import PageObjects.Proofs.Text.Split
import PageObjects.Proofs.Url.Ends
import PageObjects.Url.Path

namespace PageObjects
namespace UrlPath

open Text

/-- No segment of the path is a dot segment, and no character of it needs encoding. -/
structure Plain (path : List Char) : Prop where
  segments : ∀ segment ∈ parts '/' path, isSingleDot segment = false ∧ isDoubleDot segment = false
  encoded : ∀ c ∈ path, Percent.inPath c = false

variable {path segment a b : List Char} {isSpecial isFile slash : Bool}

theorem plain_nil : Plain [] := by
  refine ⟨fun segment h_mem => ?_, fun c h_mem => absurd h_mem List.not_mem_nil⟩
  obtain rfl := List.mem_singleton.mp h_mem
  decide

/-- A path is plain exactly if it is so on both sides of a slash. -/
theorem plain_append_slash : Plain (a ++ '/' :: b) ↔ Plain a ∧ Plain b := by
  constructor
  · intro h
    have h_segments := h.segments
    rw [parts_append_parts] at h_segments
    refine ⟨⟨fun segment h_mem => h_segments segment (List.mem_append_left _ h_mem),
      fun c h_mem => h.encoded c (List.mem_append_left _ h_mem)⟩,
      ⟨fun segment h_mem => h_segments segment (List.mem_append_right _ h_mem),
        fun c h_mem => h.encoded c (List.mem_append_right _ (List.mem_cons_of_mem _ h_mem))⟩⟩
  · rintro ⟨h_a, h_b⟩
    refine ⟨fun segment h_mem => ?_, fun c h_mem => ?_⟩
    · rw [parts_append_parts] at h_mem
      rcases List.mem_append.mp h_mem with h_mem | h_mem
      · exact h_a.segments segment h_mem
      · exact h_b.segments segment h_mem
    · rcases List.mem_append.mp h_mem with h_mem | h_mem
      · exact h_a.encoded c h_mem
      · rcases List.mem_cons.mp h_mem with rfl | h_mem
        · decide
        · exact h_b.encoded c h_mem

theorem plain_of_not_mem (h_slash : '/' ∉ segment) (h_single : isSingleDot segment = false)
    (h_double : isDoubleDot segment = false) (h_encoded : ∀ c ∈ segment, Percent.inPath c = false) :
    Plain segment := by
  refine ⟨fun other h_mem => ?_, h_encoded⟩
  rw [parts_of_not_mem h_slash] at h_mem
  obtain rfl := List.mem_singleton.mp h_mem
  exact ⟨h_single, h_double⟩

-- ============================================================================
-- Reading a path
-- ============================================================================

/-- What holds of the path so far, its last character first: it is plain, it starts with a slash,
    and it has no backslash where that would be a slash. -/
structure Rooted (isSpecial : Bool) (path : List Char) : Prop where
  plain : Plain path.reverse
  root : path.getLast? = some '/'
  clean : isSpecial = true → '\\' ∉ path

namespace Rooted

/-- The path up to one of its slashes. -/
theorem of_suffix (h : Rooted isSpecial path) (h_suffix : '/' :: b <:+ path) :
    Rooted isSpecial ('/' :: b) := by
  obtain ⟨a, rfl⟩ := h_suffix
  have h_plain := h.plain
  rw [List.reverse_append, List.reverse_cons, List.append_assoc] at h_plain
  refine ⟨?_, ?_, fun h_special h_mem => h.clean h_special (List.mem_append_right a h_mem)⟩
  · rw [List.reverse_cons]
    exact plain_append_slash.mpr ⟨(plain_append_slash.mp h_plain).1, plain_nil⟩
  · rw [← h.root, List.getLast?_append_of_ne_nil _ (List.cons_ne_nil _ _)]

/-- A segment behind the last slash. -/
theorem append_segment (h : Rooted isSpecial ('/' :: b)) (h_segment : Plain segment)
    (h_clean : isSpecial = true → '\\' ∉ segment) :
    Rooted isSpecial (segment.reverse ++ '/' :: b) := by
  refine ⟨?_, ?_, fun h_special h_mem => ?_⟩
  · have h_plain := h.plain
    rw [List.reverse_cons] at h_plain
    rw [List.reverse_append, List.reverse_reverse, List.reverse_cons, List.append_assoc]
    exact plain_append_slash.mpr ⟨(plain_append_slash.mp h_plain).1, h_segment⟩
  · rw [List.getLast?_append_of_ne_nil _ (List.cons_ne_nil _ _), h.root]
  · rcases List.mem_append.mp h_mem with h_mem | h_mem
    · exact h_clean h_special (List.mem_reverse.mp h_mem)
    · exact h.clean h_special h_mem

theorem append_slash (h : Rooted isSpecial path) : Rooted isSpecial ('/' :: path) := by
  refine ⟨?_, ?_, fun h_special h_mem => ?_⟩
  · rw [List.reverse_cons]
    exact plain_append_slash.mpr ⟨h.plain, plain_nil⟩
  · cases path with
    | nil => rfl
    | cons c rest => rw [List.getLast?_cons_cons, h.root]
  · rcases List.mem_cons.mp h_mem with h_eq | h_mem
    · exact absurd h_eq (by decide)
    · exact h.clean h_special h_mem

end Rooted

theorem head?_of_rooted {path : String} (h : Rooted isSpecial path.toList.reverse) :
    path.toList.head? = some '/' := by
  rw [← List.getLast?_reverse]
  exact h.root

theorem rooted_slash (isSpecial : Bool) : Rooted isSpecial "/".toList.reverse := by
  have h_plain : Plain ([] ++ '/' :: []) := plain_append_slash.mpr ⟨plain_nil, plain_nil⟩
  exact ⟨h_plain, rfl, fun _ h_mem => absurd h_mem (by decide)⟩

/-! ## Drives -/

theorem isNormalDrive_eq (h : isNormalDrive segment = true) :
    ∃ letter, segment = [letter, ':'] ∧ letter.isAlpha = true := by
  unfold isNormalDrive at h
  split at h
  · rename_i letter mark
    rw [Bool.and_eq_true, beq_iff_eq] at h
    exact ⟨letter, by rw [h.2], h.1⟩
  · cases h

theorem isDrive_eq (h : isDrive segment = true) :
    ∃ letter mark, segment = [letter, mark] ∧ letter.isAlpha = true := by
  unfold isDrive at h
  split at h
  · rename_i letter mark
    rw [Bool.and_eq_true] at h
    exact ⟨letter, mark, rfl, h.1⟩
  · cases h

/-- A path that starts with a drive has nothing or a slash behind it. -/
theorem exists_drive (h : isDrive (path.takeWhile (· != '/')) = true) :
    ∃ letter mark more, path = letter :: mark :: more ∧ isDrive [letter, mark] = true
      ∧ letter.isAlpha = true ∧ ∀ c ∈ more.head?, c = '/' := by
  obtain ⟨letter, mark, h_first, h_letter⟩ := isDrive_eq h
  have h_split := List.takeWhile_append_dropWhile (p := (· != '/')) (l := path)
  rw [h_first] at h h_split
  refine ⟨letter, mark, path.dropWhile (· != '/'), h_split.symm, h, h_letter, fun c h_c => ?_⟩
  have h_stop := List.head?_dropWhile_not (· != '/') path
  rw [Option.mem_def.mp h_c] at h_stop
  simpa using h_stop

theorem isDrive_of_isNormalDrive (h : isNormalDrive segment = true) : isDrive segment = true := by
  obtain ⟨letter, rfl, h_letter⟩ := isNormalDrive_eq h
  rw [isDrive, h_letter]
  rfl

theorem inPath_of_isAlpha {c : Char} (h : c.isAlpha = true) : Percent.inPath c = false := by
  refine Text.of_ascii (motive := fun c => c.isAlpha = true → Percent.inPath c = false) ?_
    (Url.ascii_of_isSchemeChar (Url.isSchemeChar_of_isAlpha h)) h
  decide

/-- What starts with the letter of a drive is no dot segment. -/
theorem plain_drive {letter : Char} (h : letter.isAlpha = true) (h_slash : '/' ∉ segment)
    (h_encoded : ∀ c ∈ segment, Percent.inPath c = false) : Plain (letter :: ':' :: segment) := by
  refine plain_of_not_mem (fun h_mem => ?_) ?_ ?_ ?_
  · rcases List.mem_cons.mp h_mem with rfl | h_mem
    · exact absurd h (by decide)
    · rcases List.mem_cons.mp h_mem with h_eq | h_mem
      · exact absurd h_eq (by decide)
      · exact h_slash h_mem
  · simp [isSingleDot]
  · simp [isDoubleDot]
  · refine List.forall_mem_cons.mpr ⟨inPath_of_isAlpha h, List.forall_mem_cons.mpr ⟨by decide, ?_⟩⟩
    exact h_encoded

/-- A path onto which a segment may be read: it ends with a slash or, in the address of a file,
    with the letter of a drive. -/
def IsOpen (isFile : Bool) (path : List Char) : Prop :=
  (∃ b, path = '/' :: b) ∨ isFile = true ∧ isNormalDrive (lastSegment path) = true

theorem isOpen_slash (isFile : Bool) (b : List Char) : IsOpen isFile ('/' :: b) :=
  .inl ⟨b, rfl⟩

theorem isOpen_of_getLast? (isFile : Bool) {start : String}
    (h : start.toList.getLast? = some '/') : IsOpen isFile start.toList.reverse := by
  obtain ⟨before, h_before⟩ := List.getLast?_eq_some_iff.mp h
  rw [h_before, List.reverse_append]
  exact isOpen_slash isFile before.reverse

/-- A path that ends with the letter of a drive has a slash before it. -/
theorem Rooted.exists_of_drive (h : Rooted isSpecial path)
    (h_drive : isNormalDrive (lastSegment path) = true) :
    ∃ letter b, path = ':' :: letter :: '/' :: b ∧ letter.isAlpha = true := by
  obtain ⟨a, b, h_path, h_not⟩ := List.eq_append_cons_of_mem (List.mem_of_getLast? h.root)
  obtain ⟨letter, h_last, h_letter⟩ := isNormalDrive_eq h_drive
  rw [lastSegment, h_path, takeWhile_bne_append h_not] at h_last
  have h_a : a = [':', letter] := by
    rw [← List.reverse_reverse a, h_last]
    rfl
  exact ⟨letter, b, by rw [h_path, h_a]; rfl, h_letter⟩

/-- The letter of a drive may start a path. -/
theorem rooted_drive (isSpecial : Bool) (h : isNormalDrive segment = true) :
    Rooted isSpecial ('/' :: segment).reverse := by
  obtain ⟨letter, rfl, h_letter⟩ := isNormalDrive_eq h
  have h_plain := plain_drive h_letter List.not_mem_nil fun c h_mem => nomatch h_mem
  have h_path := (rooted_slash isSpecial).append_segment h_plain fun _ h_mem => by
    rcases List.mem_cons.mp h_mem with h_eq | h_mem
    · rw [← h_eq] at h_letter
      exact absurd h_letter (by decide)
    · exact absurd (List.mem_singleton.mp h_mem) (by decide)
  exact h_path

theorem isOpen_drive (h : isNormalDrive segment = true) :
    IsOpen true ('/' :: segment).reverse := by
  obtain ⟨letter, rfl, h_letter⟩ := isNormalDrive_eq h
  have h_not : '/' ∉ [':', letter] := by
    intro h_mem
    rcases List.mem_cons.mp h_mem with h_eq | h_mem
    · exact absurd h_eq (by decide)
    · rw [← List.mem_singleton.mp h_mem] at h_letter
      exact absurd h_letter (by decide)
  refine .inr ⟨rfl, ?_⟩
  have h_last : lastSegment ('/' :: [letter, ':']).reverse = [letter, ':'] :=
    congrArg List.reverse (takeWhile_bne_append h_not [])
  rw [h_last]
  exact h

/-- The path without its last segment is one onto which a segment may be read. -/
theorem Rooted.dropLast (h : Rooted isSpecial path) :
    Rooted isSpecial (dropLast true path) ∧ IsOpen true (UrlPath.dropLast true path) := by
  rw [UrlPath.dropLast, Bool.true_and]
  split
  · rename_i h_drive
    exact ⟨h, .inr ⟨rfl, h_drive⟩⟩
  · obtain ⟨a, b, rfl, h_not⟩ := List.eq_append_cons_of_mem (List.mem_of_getLast? h.root)
    rw [dropWhile_bne_append h_not]
    exact ⟨h.of_suffix ⟨a, rfl⟩, isOpen_slash true b⟩

/-! ## Segments -/

/-- Going one segment up ends at a slash of the path. -/
theorem exists_suffix_of_dropLast (isFile : Bool) (b : List Char) :
    ∃ rest, dropLast isFile (dropSlash ('/' :: b)) = '/' :: rest
      ∧ '/' :: rest <:+ '/' :: b := by
  rw [dropSlash]
  split
  · rename_i h_more
    rw [Bool.and_eq_true, Bool.not_eq_true'] at h_more
    have h_mem : '/' ∈ b := List.contains_iff_mem.mp h_more.1
    have h_drive : (isFile && isNormalDrive (lastSegment b)) = false := by
      rw [Bool.eq_false_iff]
      intro h_both
      rw [Bool.and_eq_true] at h_both
      rw [isDrive_of_isNormalDrive h_both.2] at h_more
      cases h_more.2
    obtain ⟨a, rest, rfl, h_not⟩ := List.eq_append_cons_of_mem h_mem
    rw [dropLast, h_drive, if_neg Bool.false_ne_true]
    exact ⟨rest, dropWhile_bne_append h_not rest,
      (List.suffix_append a _).trans (List.suffix_cons '/' _)⟩
  · have h_drive : (isFile && isNormalDrive (lastSegment ('/' :: b))) = false := Bool.and_false _
    rw [dropLast, h_drive, if_neg Bool.false_ne_true]
    exact ⟨b, rfl, List.suffix_refl _⟩

/-- Going one segment up does not leave the letter of a drive. -/
theorem dropLast_of_drive {letter : Char} (h : letter.isAlpha = true) (b : List Char) :
    dropLast true (dropSlash (':' :: letter :: '/' :: b)) = ':' :: letter :: '/' :: b := by
  have h_not : '/' ∉ [':', letter] := by
    intro h_mem
    rcases List.mem_cons.mp h_mem with h_eq | h_mem
    · exact absurd h_eq (by decide)
    · rw [← List.mem_singleton.mp h_mem] at h
      exact absurd h (by decide)
  have h_last : lastSegment (':' :: letter :: '/' :: b) = [letter, ':'] :=
    congrArg List.reverse (takeWhile_bne_append h_not b)
  have h_drive : isNormalDrive [letter, ':'] = true := by
    rw [isNormalDrive, h]
    rfl
  show dropLast true (':' :: letter :: '/' :: b) = _
  rw [dropLast, h_last, h_drive]
  rfl

/-- A segment is read onto a path that is open. -/
theorem Rooted.append_open (h : Rooted isSpecial path) (h_open : IsOpen isFile path)
    (h_slash : '/' ∉ segment) (h_encoded : ∀ c ∈ segment, Percent.inPath c = false)
    (h_dots : isSingleDot segment = false ∧ isDoubleDot segment = false)
    (h_clean : isSpecial = true → '\\' ∉ segment) :
    Rooted isSpecial (segment.reverse ++ path) := by
  rcases h_open with ⟨b, rfl⟩ | ⟨-, h_drive⟩
  · exact h.append_segment (plain_of_not_mem h_slash h_dots.1 h_dots.2 h_encoded) h_clean
  · obtain ⟨letter, b, rfl, h_letter⟩ := h.exists_of_drive h_drive
    have h_root : Rooted isSpecial ('/' :: b) := h.of_suffix ⟨[':', letter], rfl⟩
    have h_whole := h_root.append_segment (plain_drive h_letter h_slash h_encoded)
      fun h_special h_mem => by
      rcases List.mem_cons.mp h_mem with h_eq | h_mem
      · rw [← h_eq] at h_letter
        exact absurd h_letter (by decide)
      · rcases List.mem_cons.mp h_mem with h_eq | h_mem
        · exact absurd h_eq (by decide)
        · exact h_clean h_special h_mem
    rw [List.reverse_cons, List.reverse_cons, List.append_assoc, List.append_assoc] at h_whole
    exact h_whole

/-- Reading an encoded segment keeps the path rooted; a slash behind it is the last character. -/
theorem addSegment_keeps (h : Rooted isSpecial path) (h_open : IsOpen isFile path)
    (h_slash : '/' ∉ segment) (h_encoded : ∀ c ∈ segment, Percent.inPath c = false)
    (h_clean : isSpecial = true → '\\' ∉ segment) :
    Rooted isSpecial (addSegment isFile path segment slash)
      ∧ (slash = true → ∃ rest, addSegment isFile path segment slash = '/' :: rest) := by
  have h_end : ∀ {path : List Char}, Rooted isSpecial path →
      Rooted isSpecial (endWithSlash path) ∧ ∃ rest, endWithSlash path = '/' :: rest := by
    intro path h_path
    unfold endWithSlash
    split
    · exact ⟨h_path, _, rfl⟩
    · exact ⟨h_path.append_slash, _, rfl⟩
  have h_last : ∀ {path : List Char}, Rooted isSpecial path →
      Rooted isSpecial (if slash then '/' :: path else path)
        ∧ (slash = true → ∃ rest, (if slash then '/' :: path else path) = '/' :: rest) := by
    intro path h_path
    cases slash with
    | true => exact ⟨h_path.append_slash, fun _ => ⟨path, rfl⟩⟩
    | false => exact ⟨h_path, fun h_true => nomatch h_true⟩
  rw [addSegment]
  dsimp only
  split
  · have h_up : Rooted isSpecial (dropLast isFile (dropSlash path)) := by
      rcases h_open with ⟨b, rfl⟩ | ⟨rfl, h_drive⟩
      · obtain ⟨rest, h_up, h_suffix⟩ := exists_suffix_of_dropLast isFile b
        rw [h_up]
        exact h.of_suffix h_suffix
      · obtain ⟨letter, b, rfl, h_letter⟩ := h.exists_of_drive h_drive
        rw [dropLast_of_drive h_letter]
        exact h
    cases slash with
    | true => exact ⟨(h_end h_up).1, fun _ => (h_end h_up).2⟩
    | false => exact ⟨h_up, fun h_true => nomatch h_true⟩
  · split
    · exact ⟨(h_end h).1, fun _ => (h_end h).2⟩
    · rename_i h_double h_single
      split
      · rename_i h_drive
        rw [Bool.and_eq_true, Bool.and_eq_true, beq_iff_eq] at h_drive
        obtain ⟨⟨-, rfl⟩, h_drive⟩ := h_drive
        obtain ⟨letter, mark, rfl, h_letter⟩ := isDrive_eq h_drive
        have h_plain := plain_drive h_letter List.not_mem_nil (fun c h_mem => nomatch h_mem)
        exact h_last (h.append_segment h_plain fun h_special h_mem => by
          rcases List.mem_cons.mp h_mem with h_eq | h_mem
          · exact h_clean h_special (h_eq ▸ List.mem_cons_self)
          · exact absurd (List.mem_singleton.mp h_mem) (by decide))
      · exact h_last (h.append_open h_open h_slash h_encoded
          ⟨Bool.eq_false_iff.mpr h_single, Bool.eq_false_iff.mpr h_double⟩ h_clean)

/-- Reading segments keeps the path rooted. -/
theorem addAll_keeps {segments : List (List Char)} (h : Rooted isSpecial path)
    (h_open : IsOpen isFile path) (h_slash : ∀ segment ∈ segments, '/' ∉ segment)
    (h_clean : isSpecial = true → ∀ segment ∈ segments, '\\' ∉ segment) :
    Rooted isSpecial (addAll isFile path segments) := by
  have h_step : ∀ {path : List Char} (segment : List Char) (slash : Bool), segment ∈ segments →
      Rooted isSpecial path → IsOpen isFile path →
      Rooted isSpecial (addWritten isFile path segment slash)
        ∧ (slash = true → ∃ rest, addWritten isFile path segment slash = '/' :: rest) := by
    intro path segment slash h_mem h h_open
    rw [addWritten]
    refine addSegment_keeps ?_ ?_ (fun h_in => ?_)
      (fun c h_c => Percent.not_set_of_mem_encode Percent.sparesEscapes_inPath h_c)
      (fun h_special h_in => ?_)
    · split
      · exact h.append_slash
      · exact h
    · split
      · exact isOpen_slash isFile path
      · exact h_open
    · rcases Percent.mem_encode h_in with ⟨h_in, -⟩ | h_in
      · exact h_slash segment h_mem h_in
      · exact absurd h_in (by decide)
    · rcases Percent.mem_encode h_in with ⟨h_in, -⟩ | h_in
      · exact h_clean h_special segment h_mem h_in
      · exact absurd h_in (by decide)
  induction segments generalizing path with
  | nil => exact h
  | cons segment rest ih =>
    cases rest with
    | nil => exact (h_step segment false List.mem_cons_self h h_open).1
    | cons second others =>
      obtain ⟨h_kept, h_slashed⟩ := h_step segment true List.mem_cons_self h h_open
      obtain ⟨next, h_next⟩ := h_slashed rfl
      rw [addAll, h_next]
      · rw [h_next] at h_kept
        exact ih h_kept (isOpen_slash isFile next)
          (fun other h_mem => h_slash other (List.mem_cons_of_mem _ h_mem))
          (fun h_special other h_mem => h_clean h_special other (List.mem_cons_of_mem _ h_mem))
          fun other slash h_mem => h_step other slash (List.mem_cons_of_mem _ h_mem)
      · exact fun h_nil => nomatch h_nil

-- ============================================================================
-- Whole paths
-- ============================================================================

/-- The text with the backslashes that are slashes. -/
abbrev slashed (isSpecial : Bool) (written : List Char) : List Char :=
  if isSpecial then written.map fun c => if c = '\\' then '/' else c else written

theorem not_mem_slashed {isSpecial : Bool} (h_special : isSpecial = true) (written : List Char) :
    '\\' ∉ slashed isSpecial written := by
  rw [slashed, if_pos h_special]
  intro h_mem
  obtain ⟨c, -, h_c⟩ := List.mem_map.mp h_mem
  split at h_c
  · exact absurd h_c (by decide)
  · rename_i h_ne
    exact h_ne h_c

theorem slashed_eq_self {isSpecial : Bool} {written : List Char}
    (h : isSpecial = true → '\\' ∉ written) : slashed isSpecial written = written := by
  cases isSpecial with
  | false => rfl
  | true =>
    refine (List.map_congr_left fun c h_mem => ?_).trans (List.map_id written)
    have h_ne : c ≠ '\\' := fun h_eq => h rfl (h_eq ▸ h_mem)
    rw [if_neg h_ne, id]

theorem joined_eq (isSpecial isFile : Bool) (start : String) (written : List Char) :
    joined isSpecial isFile start written
      = (addAll isFile start.toList.reverse (parts '/' (slashed isSpecial written))).reverse :=
  rfl

theorem toList_extend (isSpecial : Bool) (start : String) (written : List Char) :
    (extend isSpecial false start written).toList = joined isSpecial false start written := by
  rw [extend]
  exact String.toList_ofList

theorem toList_extend_file (isSpecial : Bool) (start : String) (written : List Char) :
    (extend isSpecial true start written).toList
      = '/' :: (joined isSpecial true start written).dropWhile (· == '/') := by
  rw [extend]
  exact String.toList_ofList

/-- A path that is read onto an open one is rooted. -/
theorem rooted_joined {start : String} (h : Rooted isSpecial start.toList.reverse)
    (h_open : IsOpen isFile start.toList.reverse) (written : List Char) :
    Rooted isSpecial (joined isSpecial isFile start written).reverse := by
  rw [joined_eq, List.reverse_reverse]
  exact addAll_keeps h h_open (fun segment h_mem => not_mem_of_mem_parts h_mem)
    fun h_special segment h_mem h_in =>
      not_mem_slashed h_special written (mem_of_mem_parts h_mem h_in)

theorem plain_dropWhile (h : Plain path) : Plain (path.dropWhile (· == '/')) := by
  induction path with
  | nil => exact h
  | cons c rest ih =>
    rw [List.dropWhile_cons]
    split
    · rename_i h_slash
      rw [beq_iff_eq.mp h_slash] at h
      exact ih (plain_append_slash (a := []).mp h).2
    · exact h

/-- A path that was read is plain, and it starts with a slash. -/
theorem rooted_extend {start : String} (h : Rooted isSpecial start.toList.reverse)
    (h_open : IsOpen isFile start.toList.reverse) (written : List Char) :
    Rooted isSpecial (extend isSpecial isFile start written).toList.reverse := by
  have h_joined := rooted_joined h h_open written
  cases isFile with
  | false =>
    rw [toList_extend]
    exact h_joined
  | true =>
    rw [toList_extend_file]
    have h_plain := h_joined.plain
    rw [List.reverse_reverse] at h_plain
    refine ⟨?_, ?_, fun h_special h_mem => ?_⟩
    · rw [List.reverse_reverse]
      exact plain_append_slash (a := []).mpr ⟨plain_nil, plain_dropWhile h_plain⟩
    · rw [List.getLast?_reverse]
      rfl
    · rcases List.mem_cons.mp (List.mem_reverse.mp h_mem) with h_eq | h_mem
      · exact absurd h_eq (by decide)
      · exact h_joined.clean h_special
          (List.mem_reverse.mpr ((List.dropWhile_sublist _).subset h_mem))

/-- The path of a file starts with one slash. -/
theorem head?_extend_file (isSpecial : Bool) (start : String) (written : List Char) :
    ((extend isSpecial true start written).toList.drop 1).head? ≠ some '/' := by
  rw [toList_extend_file]
  intro h_head
  have h_not := List.head?_dropWhile_not (· == '/') (joined isSpecial true start written)
  rw [show (('/' :: (joined isSpecial true start written).dropWhile (· == '/')).drop 1).head?
    = ((joined isSpecial true start written).dropWhile (· == '/')).head? from rfl] at h_head
  rw [h_head] at h_not
  cases h_not

/-- The first slash of a path may also be its start. -/
theorem joined_slash (isSpecial isFile : Bool) (written : List Char) :
    joined isSpecial isFile "" ('/' :: written) = joined isSpecial isFile "/" written := by
  have h_slash : slashed isSpecial ('/' :: written) = '/' :: slashed isSpecial written := by
    cases isSpecial <;> rfl
  rw [joined_eq, joined_eq, h_slash, parts, if_pos rfl]
  obtain ⟨first, others, h_parts⟩ := exists_parts '/' (slashed isSpecial written)
  rw [h_parts]
  cases isFile <;> rfl

theorem extend_slash (isSpecial isFile : Bool) (written : List Char) :
    extend isSpecial isFile "" ('/' :: written) = extend isSpecial isFile "/" written := by
  rw [extend, extend, joined_slash]

theorem extend_nil (isSpecial : Bool) : extend isSpecial false "" [] = "" := by
  cases isSpecial <;> rfl

/-! ## Plain paths -/

theorem head?_parts (sep : Char) (s : List Char) :
    (parts sep s).head? = some (s.takeWhile (· != sep)) := by
  induction s using parts_induction sep with
  | last a h_not =>
    rw [parts_of_not_mem h_not, List.takeWhile_eq_self_iff.mpr (bne_of_not_mem h_not)]
    rfl
  | step a b h_not _ =>
    rw [parts_append h_not, takeWhile_bne_append h_not]
    rfl

/-- No letter of a drive in the text is written in another way when it is read onto the path: it
    is no address of a file, or the text does not stand at the start or has no letter of a drive
    there, or a colon follows the letter. -/
def KeepsDrive (isFile : Bool) (path first : List Char) : Prop :=
  isFile = true → path = ['/'] → isDrive first = true → isNormalDrive first = true

/-- A plain segment is read onto a path that ends with a slash as it is. -/
theorem addWritten_of_plain (h_open : isFile = true → ∃ b, path = '/' :: b)
    (h_keeps : KeepsDrive isFile path segment)
    (h_dots : isSingleDot segment = false ∧ isDoubleDot segment = false)
    (h_encoded : ∀ c ∈ segment, Percent.inPath c = false) :
    addWritten isFile path segment slash
      = if slash then '/' :: (segment.reverse ++ path) else segment.reverse ++ path := by
  have h_drive : (isFile && isNormalDrive (path.reverse.drop 1) && !segment.isEmpty) = false := by
    cases isFile with
    | false => rfl
    | true =>
      obtain ⟨b, rfl⟩ := h_open rfl
      have h_not : isNormalDrive (('/' :: b).reverse.drop 1) = false := by
        rw [Bool.eq_false_iff]
        intro h_drive
        obtain ⟨letter, h_eq, -⟩ := isNormalDrive_eq h_drive
        have h_last := congrArg List.getLast? h_eq
        rw [List.reverse_cons, List.drop_append_of_le_length] at h_last
        · rw [List.getLast?_concat, show [letter, ':'].getLast? = some ':' from rfl] at h_last
          exact absurd (Option.some.inj h_last) (by decide)
        · have h_length := congrArg List.length h_eq
          rw [List.length_drop, List.length_reverse, List.length_cons] at h_length
          rw [List.length_reverse]
          have h_two : [letter, ':'].length = 2 := rfl
          omega
      rw [h_not, Bool.and_false]
      rfl
  rw [addWritten, h_drive, if_neg Bool.false_ne_true, Percent.encode_eq_self h_encoded, addSegment,
    h_dots.1, h_dots.2]
  dsimp only
  rw [if_neg Bool.false_ne_true, if_neg Bool.false_ne_true]
  split
  · rename_i h_root
    rw [Bool.and_eq_true, Bool.and_eq_true, beq_iff_eq] at h_root
    obtain ⟨letter, rfl, -⟩ := isNormalDrive_eq (h_keeps h_root.1.1 h_root.1.2 h_root.2)
    rfl
  · rfl

theorem addAll_of_plain {segments : List (List Char)}
    (h_open : isFile = true → ∃ b, path = '/' :: b)
    (h_keeps : ∀ first ∈ segments.head?, KeepsDrive isFile path first)
    (h : ∀ segment ∈ segments, (isSingleDot segment = false ∧ isDoubleDot segment = false)
      ∧ ∀ c ∈ segment, Percent.inPath c = false) :
    addAll isFile path segments = (['/'].intercalate segments).reverse ++ path := by
  induction segments generalizing path with
  | nil => rfl
  | cons segment rest ih =>
    obtain ⟨h_dots, h_encoded⟩ := h segment List.mem_cons_self
    have h_first := h_keeps segment rfl
    cases rest with
    | nil =>
      rw [addAll, addWritten_of_plain h_open h_first h_dots h_encoded, List.intercalate_singleton]
      rfl
    | cons second others =>
      -- what is read onto more than a slash does not stand at the start
      have h_more : ∀ first ∈ (second :: others).head?,
          KeepsDrive isFile ('/' :: (segment.reverse ++ path)) first := by
        intro first _ h_file h_root
        obtain ⟨b, rfl⟩ := h_open h_file
        have h_nil := (List.cons.inj h_root).2
        exact absurd (List.append_eq_nil_iff.mp h_nil).2 (List.cons_ne_nil _ _)
      have h_rest := ih (fun _ => ⟨_, rfl⟩) h_more
        fun other h_mem => h other (List.mem_cons_of_mem _ h_mem)
      rw [addAll, addWritten_of_plain h_open h_first h_dots h_encoded, if_pos rfl, h_rest,
        List.intercalate_cons_cons, List.reverse_append, List.reverse_append, List.append_assoc,
        List.append_assoc]
      · rfl
      · exact fun h_nil => nomatch h_nil

/-- A plain path is read as it is. -/
theorem joined_of_plain {written : List Char} (h : Plain written)
    (h_clean : isSpecial = true → '\\' ∉ written) {start : String}
    (h_open : isFile = true → ∃ b, start.toList.reverse = '/' :: b)
    (h_keeps : KeepsDrive isFile start.toList.reverse (written.takeWhile (· != '/'))) :
    joined isSpecial isFile start written = start.toList ++ written := by
  have h_segments : ∀ segment ∈ parts '/' written,
      (isSingleDot segment = false ∧ isDoubleDot segment = false)
        ∧ ∀ c ∈ segment, Percent.inPath c = false := fun segment h_mem =>
    ⟨h.segments segment h_mem, fun c h_c => h.encoded c (mem_of_mem_parts h_mem h_c)⟩
  have h_first : ∀ first ∈ (parts '/' written).head?,
      KeepsDrive isFile start.toList.reverse first := by
    intro first h_some
    rw [head?_parts] at h_some
    obtain rfl := Option.some.inj h_some
    exact h_keeps
  rw [joined_eq, slashed_eq_self h_clean, addAll_of_plain h_open h_first h_segments,
    intercalate_parts, List.reverse_append, List.reverse_reverse, List.reverse_reverse]

/-- The letter of a drive at the start of the path of a file gets a colon. -/
theorem addWritten_drive {letter mark : Char} (h : isDrive [letter, mark] = true) (slash : Bool) :
    addWritten true ['/'] [letter, mark] slash
      = if slash then ['/', ':', letter, '/'] else [':', letter, '/'] := by
  obtain ⟨h_letter, h_mark⟩ := Bool.and_eq_true_iff.mp h
  rw [Bool.or_eq_true, beq_iff_eq, beq_iff_eq] at h_mark
  have h_encoded : ∀ c ∈ [letter, mark], Percent.inPath c = false := by
    refine List.forall_mem_cons.mpr ⟨inPath_of_isAlpha h_letter, List.forall_mem_singleton.mpr ?_⟩
    rcases h_mark with rfl | rfl
    · decide
    · decide
  have h_dots : isSingleDot [letter, mark] = false ∧ isDoubleDot [letter, mark] = false := by
    rcases h_mark with rfl | rfl
    · simp [isSingleDot, isDoubleDot]
    · simp [isSingleDot, isDoubleDot]
  have h_root : (true && isNormalDrive (['/'].reverse.drop 1)
      && !(List.isEmpty [letter, mark])) = false := rfl
  rw [addWritten, h_root, if_neg Bool.false_ne_true, Percent.encode_eq_self h_encoded, addSegment,
    h_dots.1, h_dots.2, h]
  rfl

theorem not_mem_drive {letter mark c : Char} (h : isDrive [letter, mark] = true)
    (h_c : c.isAlpha = false) (h_ne : c ≠ ':' ∧ c ≠ '|') : c ∉ [letter, mark] := by
  obtain ⟨h_letter, h_mark⟩ := Bool.and_eq_true_iff.mp h
  rw [Bool.or_eq_true, beq_iff_eq, beq_iff_eq] at h_mark
  intro h_mem
  rcases List.mem_cons.mp h_mem with rfl | h_mem
  · rw [h_letter] at h_c
    cases h_c
  · obtain rfl := List.mem_singleton.mp h_mem
    exact h_mark.elim h_ne.1 h_ne.2

theorem isDrive_colon {letter : Char} (h : letter.isAlpha = true) :
    isDrive [letter, ':'] = true := by
  rw [isDrive, h]
  rfl

theorem leadsToDrive_colon {letter : Char} {more : List Char} (h : letter.isAlpha = true)
    (h_more : ∀ c ∈ more.head?, c = '/') :
    leadsToDrive ('/' :: letter :: ':' :: more) = true := by
  have h_not : '/' ∉ [letter, ':'] := not_mem_drive (isDrive_colon h) (by decide) (by decide)
  have h_first : ([letter, ':'] ++ more).takeWhile (· != '/') = [letter, ':'] := by
    cases more with
    | nil => exact List.takeWhile_eq_self_iff.mpr (bne_of_not_mem h_not)
    | cons c behind =>
      obtain rfl := h_more c rfl
      exact takeWhile_bne_append h_not behind
  show isNormalDrive (([letter, ':'] ++ more).takeWhile (· != '/')) = true
  rw [h_first, isNormalDrive, h]
  rfl

/-- How the path is read that starts with the letter of a drive does not depend on what stands
    behind that letter. -/
theorem joined_drive_eq {letter a b : Char} {more : List Char} (h_a : isDrive [letter, a] = true)
    (h_b : isDrive [letter, b] = true) (h_more : ∀ c ∈ more.head?, c = '/')
    (h_clean : '\\' ∉ more) :
    joined true true "/" (letter :: a :: more) = joined true true "/" (letter :: b :: more) := by
  have h_slashed : ∀ {mark : Char}, isDrive [letter, mark] = true →
      slashed true (letter :: mark :: more) = [letter, mark] ++ more := by
    intro mark h_drive
    refine slashed_eq_self fun _ h_mem => ?_
    rcases List.mem_append.mp (show '\\' ∈ [letter, mark] ++ more from h_mem) with h_mem | h_mem
    · exact not_mem_drive h_drive (by decide) (by decide) h_mem
    · exact h_clean h_mem
  have h_slash : ∀ {mark : Char}, isDrive [letter, mark] = true → '/' ∉ [letter, mark] :=
    fun h_drive => not_mem_drive h_drive (by decide) (by decide)
  rw [joined_eq, joined_eq, h_slashed h_a, h_slashed h_b]
  refine congrArg List.reverse ?_
  show addAll true ['/'] _ = addAll true ['/'] _
  cases more with
  | nil =>
    rw [List.append_nil, List.append_nil, parts_of_not_mem (h_slash h_a),
      parts_of_not_mem (h_slash h_b), addAll, addAll, addWritten_drive h_a, addWritten_drive h_b]
  | cons c behind =>
    obtain rfl := h_more c rfl
    obtain ⟨first, others, h_parts⟩ := exists_parts '/' behind
    have h_read : ∀ {mark : Char}, isDrive [letter, mark] = true →
        addAll true ['/'] ([letter, mark] :: first :: others)
          = addAll true ['/', ':', letter, '/'] (first :: others) := by
      intro mark h_drive
      rw [addAll, addWritten_drive h_drive, if_pos rfl]
      exact fun h_nil => nomatch h_nil
    rw [parts_append (h_slash h_a), parts_append (h_slash h_b), h_parts, h_read h_a, h_read h_b]

/-- A plain path with the letter of a drive at its start is read as it is, but for a colon behind
    that letter. -/
theorem joined_drive {letter mark : Char} {more : List Char}
    (h_drive : isDrive [letter, mark] = true) (h_more : ∀ c ∈ more.head?, c = '/')
    (h : Plain (letter :: mark :: more)) (h_clean : '\\' ∉ more) :
    joined true true "/" (letter :: mark :: more) = '/' :: letter :: ':' :: more := by
  have h_letter := (Bool.and_eq_true_iff.mp h_drive).1
  have h_colon := isDrive_colon h_letter
  have h_short : Plain [letter, ':'] :=
    plain_drive h_letter List.not_mem_nil fun c h_mem => nomatch h_mem
  have h_plain : Plain ([letter, ':'] ++ more) := by
    cases more with
    | nil => exact h_short
    | cons c behind =>
      obtain rfl := h_more c rfl
      exact plain_append_slash.mpr ⟨h_short, (plain_append_slash (a := [letter, mark]).mp h).2⟩
  rw [joined_drive_eq h_drive h_colon h_more h_clean]
  refine joined_of_plain h_plain (fun _ h_mem => ?_) (fun _ => ⟨[], rfl⟩)
    fun _ _ _ => leadsToDrive_colon h_letter h_more
  rcases List.mem_append.mp h_mem with h_mem | h_mem
  · exact not_mem_drive h_colon (by decide) (by decide) h_mem
  · exact h_clean h_mem

/-- A plain path is read as it is, in the address of anything but a file. -/
theorem extend_of_plain {written : List Char} (h : Plain written)
    (h_clean : isSpecial = true → '\\' ∉ written) (start : String) :
    extend isSpecial false start written = start ++ String.ofList written := by
  rw [← String.toList_inj, toList_extend, joined_of_plain h h_clean
    (fun h_file => Bool.noConfusion h_file) (fun h_file => Bool.noConfusion h_file),
    String.toList_append, String.toList_ofList]

end UrlPath
end PageObjects
