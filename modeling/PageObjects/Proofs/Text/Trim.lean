/-
  PageObjects.Proofs.Text.Trim

  Texts without the blanks at their ends. All that is trimmed away is blank, and blanks
  around a text make no difference to what remains.

    * `exists_trimBlanks`: a text is its trimmed form with blanks around it.
    * `filter_trimBlanks_infix_iff`: when the trimmed form still occurs in the text
      after line breaks were taken out of it.
-/

import Mathlib.Data.List.DropRight
import PageObjects.Text.Blank

namespace PageObjects
namespace Text

theorem trimBlanks_eq (s : List Char) :
    trimBlanks s = (s.dropWhile isBlank).rdropWhile isBlank := rfl

theorem length_trimBlanks_le (s : List Char) : (trimBlanks s).length ≤ s.length :=
  (List.rdropWhile_prefix isBlank (s.dropWhile isBlank)).length_le.trans
    (List.length_dropWhile_le isBlank s)

theorem exists_trimBlanks (s : List Char) : ∃ before after, s = before ++ trimBlanks s ++ after ∧
    (∀ c ∈ before, isBlank c = true) ∧ ∀ c ∈ after, isBlank c = true := by
  refine ⟨s.takeWhile isBlank, (s.dropWhile isBlank).rtakeWhile isBlank, ?_,
    fun c => List.mem_takeWhile_imp, fun c => List.mem_rtakeWhile_imp⟩
  rw [trimBlanks_eq, List.append_assoc, List.rdropWhile_append_rtakeWhile,
    List.takeWhile_append_dropWhile]

/-- Blanks around a text make no difference to its trimmed form. -/
theorem trimBlanks_append {before after : List Char} (h_before : ∀ c ∈ before, isBlank c = true)
    (h_after : ∀ c ∈ after, isBlank c = true) (s : List Char) :
    trimBlanks (before ++ s ++ after) = trimBlanks s := by
  rw [trimBlanks, trimBlanks, List.append_assoc, List.dropWhile_append_of_pos h_before,
    List.dropWhile_append]
  split
  · rename_i h_blank
    rw [List.isEmpty_iff.1 h_blank, List.dropWhile_eq_nil_iff.2 h_after]
  · rw [List.reverse_append,
      List.dropWhile_append_of_pos fun c h_c => h_after c (List.mem_reverse.1 h_c)]

/-- The number of characters that are not blank. -/
def markCount (s : List Char) : Nat :=
  s.countP fun c => !isBlank c

theorem markCount_eq_zero_iff {s : List Char} : markCount s = 0 ↔ ∀ c ∈ s, isBlank c = true := by
  simp [markCount, List.countP_eq_zero]

theorem markCount_append (s t : List Char) : markCount (s ++ t) = markCount s + markCount t :=
  List.countP_append

theorem markCount_trimBlanks (s : List Char) : markCount (trimBlanks s) = markCount s := by
  obtain ⟨before, after, h_s, h_before, h_after⟩ := exists_trimBlanks s
  have h_count := congrArg markCount h_s
  rw [markCount_append, markCount_append, markCount_eq_zero_iff.2 h_before,
    markCount_eq_zero_iff.2 h_after] at h_count
  omega

/-- Line breaks are blank. -/
theorem markCount_filter (s : List Char) : markCount (s.filter (· != '\n')) = markCount s := by
  rw [markCount, markCount, List.countP_filter]
  refine List.countP_congr fun c _ => ?_
  by_cases h : c = '\n'
  · subst h
    decide
  · simp [h]

/-- The trimmed form without its line breaks occurs in the text exactly if there are none: what
    stands around it in the text would be blank, so that it would be the trimmed form. -/
theorem filter_trimBlanks_infix_iff (s : List Char) :
    (trimBlanks s).filter (· != '\n') <:+: s ↔ '\n' ∉ trimBlanks s := by
  constructor
  · rintro ⟨before, after, h_s⟩
    have h_count := congrArg markCount h_s
    rw [markCount_append, markCount_append, markCount_filter, markCount_trimBlanks] at h_count
    have h_trim := trimBlanks_append (markCount_eq_zero_iff.1 (by omega : markCount before = 0))
      (markCount_eq_zero_iff.1 (by omega : markCount after = 0))
      ((trimBlanks s).filter (· != '\n'))
    rw [h_s] at h_trim
    have h_le := length_trimBlanks_le ((trimBlanks s).filter (· != '\n'))
    rw [← h_trim] at h_le
    have h_all := List.length_filter_eq_length_iff.1
      (Nat.le_antisymm (List.length_filter_le _ _) h_le)
    exact fun h_mem => bne_iff_ne.1 (h_all _ h_mem) rfl
  · intro h_none
    obtain ⟨before, after, h_s, -, -⟩ := exists_trimBlanks s
    rw [List.filter_eq_self.2 fun c h_c => bne_iff_ne.2 (ne_of_mem_of_not_mem h_c h_none)]
    exact ⟨before, after, h_s.symm⟩

end Text
end PageObjects
