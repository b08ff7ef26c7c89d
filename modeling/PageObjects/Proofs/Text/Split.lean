/-
  PageObjects.Proofs.Text.Split

  Cutting and joining. `parts` is the split of lists of the library, whose lemmas
  say that it undoes joining; what is added here are facts about all characters of a
  text, which can be checked for a text that is given, the characters of the parts,
  the two cases of `cut`, and runs of characters up to one that stops them.
-/

import Mathlib.Data.List.TakeWhile
import PageObjects.Text.Split

namespace PageObjects
namespace Text

variable {sep : Char} {s a b part : List Char}

-- ============================================================================
-- Characters
-- ============================================================================

/-- What is checked of each character of a text holds of each. -/
theorem forall_mem_of_all {motive : Char → Prop} [DecidablePred motive]
    (h : s.all (fun c => decide (motive c)) = true) : ∀ c ∈ s, motive c :=
  fun c h_mem => of_decide_eq_true (List.all_eq_true.mp h c h_mem)

/-- Letters and digits are ASCII. -/
theorem ascii_of_isAlphanum {c : Char} (h : c.isAlphanum = true) : c.toNat < 0x80 := by
  have h_cases : (decide (c.val ≥ 'A'.val ∧ c.val ≤ 'Z'.val)
      || (c.val ≥ 'a'.val && c.val ≤ 'z'.val)
      || (c.val ≥ '0'.val && c.val ≤ '9'.val)) = true := h
  simp only [Bool.or_eq_true, Bool.and_eq_true, decide_eq_true_eq] at h_cases
  have h_le : ∀ bound : Char, bound.toNat < 0x80 → c.val ≤ bound.val → c.toNat < 0x80 :=
    fun bound h_bound h_c => Nat.lt_of_le_of_lt (UInt32.le_iff_toNat_le.mp h_c) h_bound
  rcases h_cases with (⟨-, h_c⟩ | ⟨-, h_c⟩) | ⟨-, h_c⟩
  · exact h_le 'Z' (by decide) h_c
  · exact h_le 'z' (by decide) h_c
  · exact h_le '9' (by decide) h_c

/-- What holds of the first numbers of characters holds of the characters in ASCII. -/
theorem of_ascii {motive : Char → Prop} (h : ∀ n < 0x80, motive (Char.ofNat n)) {c : Char}
    (h_ascii : c.toNat < 0x80) : motive c := by
  have h_c := h c.toNat h_ascii
  rwa [Char.ofNat_toNat] at h_c

-- ============================================================================
-- Parts
-- ============================================================================

theorem parts_eq_splitOn (sep : Char) (s : List Char) : parts sep s = s.splitOn sep := by
  induction s with
  | nil => rfl
  | cons c rest ih =>
    rw [parts, List.splitOn_cons_eq_if_modifyHead, ih]
    by_cases h : c = sep
    · rw [if_pos h, if_pos (beq_iff_eq.mpr h)]
    · rw [if_neg h, if_neg fun h_beq => h (beq_iff_eq.mp h_beq)]
      cases h_parts : rest.splitOn sep with
      | nil => exact absurd h_parts (List.splitOn_ne_nil sep rest)
      | cons first others => rfl

theorem exists_parts (sep : Char) (s : List Char) :
    ∃ first others, parts sep s = first :: others := by
  rw [parts_eq_splitOn]
  exact List.exists_cons_of_ne_nil (List.splitOn_ne_nil sep s)

theorem parts_of_not_mem (h : sep ∉ s) : parts sep s = [s] := by
  rw [parts_eq_splitOn, List.splitOn_eq_singleton h]

theorem parts_append (h : sep ∉ a) (b : List Char) :
    parts sep (a ++ sep :: b) = a :: parts sep b := by
  rw [parts_eq_splitOn, List.splitOn_append_cons_self_of_not_mem h, parts_eq_splitOn]

theorem parts_append_parts (a b : List Char) :
    parts sep (a ++ sep :: b) = parts sep a ++ parts sep b := by
  simp only [parts_eq_splitOn, List.splitOn_append_cons_self]

theorem intercalate_parts (sep : Char) (s : List Char) : [sep].intercalate (parts sep s) = s := by
  rw [parts_eq_splitOn, List.intercalate_splitOn]

theorem parts_intercalate {pieces : List (List Char)} (h : ∀ piece ∈ pieces, sep ∉ piece)
    (h_ne : pieces ≠ []) : parts sep ([sep].intercalate pieces) = pieces := by
  rw [parts_eq_splitOn, List.splitOn_intercalate sep h h_ne]

theorem mem_of_mem_intercalate {pieces : List (List Char)} {c : Char}
    (h : c ∈ [sep].intercalate pieces) : c = sep ∨ ∃ piece ∈ pieces, c ∈ piece := by
  induction pieces with
  | nil => exact absurd h List.not_mem_nil
  | cons piece rest ih =>
    cases rest with
    | nil =>
      rw [List.intercalate_singleton] at h
      exact .inr ⟨piece, List.mem_cons_self, h⟩
    | cons second others =>
      rw [List.intercalate_cons_cons, List.append_assoc] at h
      rcases List.mem_append.mp h with h | h
      · exact .inr ⟨piece, List.mem_cons_self, h⟩
      · rcases List.mem_cons.mp h with rfl | h
        · exact .inl rfl
        · rcases ih h with h_sep | ⟨other, h_mem, h_c⟩
          · exact .inl h_sep
          · exact .inr ⟨other, List.mem_cons_of_mem _ h_mem, h_c⟩

/-- A text is one part, or it has a first part before a separator. -/
theorem parts_induction {motive : List Char → Prop} (sep : Char)
    (last : ∀ a, sep ∉ a → motive a)
    (step : ∀ a b, sep ∉ a → motive b → motive (a ++ sep :: b)) (s : List Char) : motive s := by
  by_cases h : sep ∈ s
  · obtain ⟨a, b, h_eq, h_not⟩ := List.eq_append_cons_of_mem h
    have h_lt : b.length < s.length := by
      rw [h_eq, List.length_append, List.length_cons]
      omega
    rw [h_eq]
    exact step a b h_not (parts_induction sep last step b)
  · exact last s h
termination_by s.length

theorem not_mem_of_mem_parts (h : part ∈ parts sep s) : sep ∉ part := by
  induction s using parts_induction sep with
  | last a h_not =>
    rw [parts_of_not_mem h_not] at h
    rwa [List.mem_singleton.mp h]
  | step a b h_not ih =>
    rw [parts_append h_not] at h
    rcases List.mem_cons.mp h with rfl | h
    · exact h_not
    · exact ih h

theorem mem_of_mem_parts {c : Char} (h : part ∈ parts sep s) (h_mem : c ∈ part) : c ∈ s := by
  induction s using parts_induction sep with
  | last a h_not =>
    rw [parts_of_not_mem h_not] at h
    rwa [← List.mem_singleton.mp h]
  | step a b h_not ih =>
    rw [parts_append h_not] at h
    rcases List.mem_cons.mp h with rfl | h
    · exact List.mem_append_left _ h_mem
    · exact List.mem_append_right _ (List.mem_cons_of_mem _ (ih h))

-- ============================================================================
-- Runs
-- ============================================================================

variable {p : Char → Bool}

/-- A run ends where a character does not belong to it. -/
theorem takeWhile_append_of_stop (h : ∀ c ∈ a, p c = true) (h_stop : ∀ c ∈ b.head?, p c = false) :
    (a ++ b).takeWhile p = a := by
  rw [List.takeWhile_append_of_pos h]
  cases b with
  | nil => rw [List.takeWhile_nil, List.append_nil]
  | cons c rest =>
    rw [List.takeWhile_cons_of_neg (by rw [h_stop c rfl]; exact Bool.false_ne_true),
      List.append_nil]

theorem dropWhile_append_of_stop (h : ∀ c ∈ a, p c = true) (h_stop : ∀ c ∈ b.head?, p c = false) :
    (a ++ b).dropWhile p = b := by
  rw [List.dropWhile_append_of_pos h]
  cases b with
  | nil => rfl
  | cons c rest =>
    rw [List.dropWhile_cons_of_neg (by rw [h_stop c rfl]; exact Bool.false_ne_true)]

/-- What follows a text does not change the run at its start, if it cannot belong to the run. -/
theorem takeWhile_append_of_head (a : List Char) (h_stop : ∀ c ∈ b.head?, p c = false) :
    (a ++ b).takeWhile p = a.takeWhile p := by
  induction a with
  | nil => exact takeWhile_append_of_stop (fun c h_mem => absurd h_mem List.not_mem_nil) h_stop
  | cons c rest ih =>
    rw [List.cons_append, List.takeWhile_cons, List.takeWhile_cons, ih]

theorem dropWhile_append_of_head (a : List Char) (h_stop : ∀ c ∈ b.head?, p c = false) :
    (a ++ b).dropWhile p = a.dropWhile p ++ b := by
  induction a with
  | nil => exact dropWhile_append_of_stop (fun c h_mem => absurd h_mem List.not_mem_nil) h_stop
  | cons c rest ih =>
    rw [List.cons_append, List.dropWhile_cons, List.dropWhile_cons, ih]
    split
    · rfl
    · rfl

/-! ## Runs up to a separator -/

theorem bne_of_not_mem (h : sep ∉ s) : ∀ c ∈ s, (c != sep) = true :=
  fun _ h_mem => bne_iff_ne.mpr fun h_eq => h (h_eq ▸ h_mem)

theorem bne_head_eq_false (sep : Char) (b : List Char) :
    ∀ c ∈ (sep :: b).head?, (c != sep) = false := by
  intro c h_c
  obtain rfl := Option.some.inj h_c
  exact bne_self_eq_false sep

theorem takeWhile_bne_append (h : sep ∉ a) (b : List Char) :
    (a ++ sep :: b).takeWhile (· != sep) = a :=
  takeWhile_append_of_stop (bne_of_not_mem h) (bne_head_eq_false sep b)

theorem dropWhile_bne_append (h : sep ∉ a) (b : List Char) :
    (a ++ sep :: b).dropWhile (· != sep) = sep :: b :=
  dropWhile_append_of_stop (bne_of_not_mem h) (bne_head_eq_false sep b)

/-- A text without a separator is determined by any text that it is the start of, if a separator
    or nothing comes next. -/
theorem append_inj_of_stop {t : List Char} (h_a : sep ∉ a) (h_b : sep ∉ b)
    (h_s : ∀ c ∈ s.head?, c = sep) (h_t : ∀ c ∈ t.head?, c = sep) (h : a ++ s = b ++ t) :
    a = b ∧ s = t := by
  have h_stop : ∀ {rest : List Char}, (∀ c ∈ rest.head?, c = sep) →
      ∀ c ∈ rest.head?, (c != sep) = false := by
    intro rest h_rest c h_c
    rw [h_rest c h_c]
    exact bne_self_eq_false sep
  have h_run := congrArg (List.takeWhile (· != sep)) h
  rw [takeWhile_append_of_stop (bne_of_not_mem h_a) (h_stop h_s),
    takeWhile_append_of_stop (bne_of_not_mem h_b) (h_stop h_t)] at h_run
  subst h_run
  exact ⟨rfl, List.append_cancel_left h⟩

-- ============================================================================
-- Cutting at the first separator
-- ============================================================================

theorem cut_of_not_mem (h : sep ∉ s) : cut sep s = (s, none) := by
  rw [cut, List.dropWhile_eq_nil_iff.mpr (bne_of_not_mem h)]

theorem cut_append (h : sep ∉ a) (b : List Char) : cut sep (a ++ sep :: b) = (a, some b) := by
  rw [cut, dropWhile_bne_append h, takeWhile_bne_append h]

theorem cut_fst (sep : Char) (s : List Char) : (cut sep s).1 = s.takeWhile (· != sep) := by
  rw [cut]
  split
  · rename_i h_nil
    have h_whole := List.takeWhile_append_dropWhile (p := (· != sep)) (l := s)
    rw [h_nil, List.append_nil] at h_whole
    exact h_whole.symm
  · rfl

end Text
end PageObjects
