/-
  PageObjects.Proofs.Text.Case

  Folding the case of a character. The table lists the characters that change; none
  of the characters that they change to is listed itself, so folding once is enough.

    * `foldCase_cases`: a character stays as it is, or a run of the table moves it.
    * `isUncapital_foldCase`: no capital letter of ASCII is left.
    * `foldCase_foldCase`: folding twice is folding once.
-/

import PageObjects.Text.Case

namespace PageObjects

/-- The character is no capital letter of ASCII. -/
def IsUncapital (c : Char) : Prop :=
  c.toNat < 0x41 ∨ 0x5a < c.toNat

instance (c : Char) : Decidable (IsUncapital c) :=
  inferInstanceAs (Decidable (_ ∨ _))

namespace Text

-- ============================================================================
-- Runs of the table
-- ============================================================================

/-- The run lists the code point `n`. -/
def Lists (run : Nat × Nat × Nat × Nat) (n : Nat) : Prop :=
  run.1 ≤ n ∧ n ≤ run.2.1 ∧ (n - run.1) % run.2.2.1 = 0

/-- A code point stays as it is, or a run that lists it moves it. -/
theorem foldCodePoint_cases (n : Nat) (runs : List (Nat × Nat × Nat × Nat)) :
    foldCodePoint n runs = n
      ∨ ∃ run ∈ runs, Lists run n ∧ foldCodePoint n runs = run.2.2.2 + (n - run.1) := by
  induction runs with
  | nil => exact .inl rfl
  | cons run rest ih =>
    obtain ⟨first, last, step, target⟩ := run
    rw [foldCodePoint]
    split
    · exact .inl rfl
    · rename_i h_first
      split
      · rename_i h_in
        exact .inr ⟨_, List.mem_cons_self, ⟨Nat.not_lt.mp h_first, h_in⟩, rfl⟩
      · rcases ih with h_same | ⟨run, h_mem, h_lists, h_moved⟩
        · exact .inl h_same
        · exact .inr ⟨run, List.mem_cons_of_mem _ h_mem, h_lists, h_moved⟩

/-- No code point to which the run `a` moves one is listed by `b`: they lie apart, or those of `b`
    go in steps of two and those of `a` lie between them. -/
def apart (a b : Nat × Nat × Nat × Nat) : Bool :=
  Nat.ble (a.2.2.2 + (a.2.1 - a.1) + 1) b.1 || Nat.ble (b.2.1 + 1) a.2.2.2
    || (Nat.beq a.2.2.1 2 || Nat.beq a.1 a.2.1) && Nat.beq b.2.2.1 2
      && Nat.beq ((a.2.2.2 + b.1) % 2) 1

theorem not_lists_of_apart {a b : Nat × Nat × Nat × Nat} {n : Nat} (h : apart a b = true)
    (h_a : Lists a n) : ¬Lists b (a.2.2.2 + (n - a.1)) := by
  obtain ⟨h_first, h_last, h_step⟩ := h_a
  rintro ⟨h_from, h_to, h_mod⟩
  rw [apart, Bool.or_eq_true, Bool.or_eq_true, Bool.and_eq_true, Bool.and_eq_true, Bool.or_eq_true,
    Nat.ble_eq, Nat.ble_eq, Nat.beq_eq, Nat.beq_eq, Nat.beq_eq, Nat.beq_eq] at h
  rcases h with (h_below | h_above) | ⟨⟨h_even | h_single, h_two⟩, h_odd⟩
  · omega
  · omega
  · rw [h_even] at h_step
    rw [h_two] at h_mod
    omega
  · rw [h_two] at h_mod
    omega

/-- The table lists no code point to which it moves one. -/
theorem foldCodePoint_foldCodePoint (n : Nat) :
    foldCodePoint (foldCodePoint n foldRuns) foldRuns = foldCodePoint n foldRuns := by
  have h_apart : (foldRuns.all fun a => foldRuns.all fun b => apart a b) = true := by
    decide +kernel
  rcases foldCodePoint_cases n foldRuns with h_same | ⟨a, h_a, h_lists, h_moved⟩
  · rw [h_same, h_same]
  · rw [h_moved]
    rcases foldCodePoint_cases (a.2.2.2 + (n - a.1)) foldRuns with h_same | ⟨b, h_b, h_again, -⟩
    · exact h_same
    · have h_ab := List.all_eq_true.mp (List.all_eq_true.mp h_apart a h_a) b h_b
      exact absurd h_again (not_lists_of_apart h_ab h_lists)

-- ============================================================================
-- Characters
-- ============================================================================

theorem toNat_ofNat (n : Nat) :
    (Char.ofNat n).toNat = n ∨ (Char.ofNat n).toNat = 0 := by
  by_cases h_valid : n.isValidChar
  · have h_char : Char.ofNat n = Char.ofNatAux n h_valid := dif_pos h_valid
    rw [h_char]
    exact .inl rfl
  · have h_char : Char.ofNat n = ⟨0, by decide⟩ := dif_neg h_valid
    rw [h_char]
    exact .inr rfl

/-- A character stays as it is, or a run that lists it moves it, if only to a code point that is
    none. -/
theorem foldCase_cases (c : Char) :
    foldCase c = c ∨ (foldCase c).toNat = 0
      ∨ ∃ run ∈ foldRuns, Lists run c.toNat
        ∧ (foldCase c).toNat = run.2.2.2 + (c.toNat - run.1) := by
  rcases foldCodePoint_cases c.toNat foldRuns with h_same | ⟨run, h_mem, h_lists, h_moved⟩
  · exact .inl (by rw [foldCase, h_same, Char.ofNat_toNat])
  · rw [foldCase, h_moved]
    rcases toNat_ofNat (run.2.2.2 + (c.toNat - run.1)) with h_valid | h_zero
    · exact .inr (.inr ⟨run, h_mem, h_lists, h_valid⟩)
    · exact .inr (.inl h_zero)

/-- Folding leaves no capital letter. -/
theorem isUncapital_foldCase (c : Char) : IsUncapital (foldCase c) := by
  have h_targets : ∀ run ∈ foldRuns, 0x61 ≤ run.2.2.2 := by decide +kernel
  have h_capital : ∀ n ≤ 0x5a, 0x41 ≤ n → foldCodePoint n foldRuns = n + 0x20 := by decide
  rcases foldCase_cases c with h_same | h_zero | ⟨run, h_mem, -, h_moved⟩
  · rw [h_same]
    refine Decidable.byContradiction fun h_letter => ?_
    rw [IsUncapital, not_or, Nat.not_lt, Nat.not_lt] at h_letter
    have h_number := congrArg Char.toNat h_same
    rw [foldCase, h_capital c.toNat h_letter.2 h_letter.1] at h_number
    rcases toNat_ofNat (c.toNat + 0x20) with h_valid | h_zero
    · omega
    · omega
  · exact .inl (by omega)
  · have h_target := h_targets run h_mem
    exact .inr (by omega)

/-- Folding twice is folding once. -/
theorem foldCase_foldCase (c : Char) : foldCase (foldCase c) = foldCase c := by
  have h_zero : foldCodePoint 0 foldRuns = 0 := by decide
  have h_idem := foldCodePoint_foldCodePoint c.toNat
  rw [foldCase, foldCase]
  rcases toNat_ofNat (foldCodePoint c.toNat foldRuns) with h_valid | h_none
  · rw [h_valid, h_idem]
  · rw [h_none, h_zero, ← h_none, Char.ofNat_toNat]

theorem foldCase_of_ascii {c : Char} (h_ascii : c.toNat < 0x80) (h : IsUncapital c) :
    foldCase c = c := by
  have h_number : foldCodePoint c.toNat foldRuns = c.toNat := by
    rw [foldRuns, foldCodePoint]
    split
    · rfl
    · rw [if_neg (by rcases h with h | h <;> omega), foldCodePoint, if_pos (by omega)]
  rw [foldCase, h_number, Char.ofNat_toNat]

/-- A character in ASCII stays in ASCII. -/
theorem ascii_foldCase {c : Char} (h : c.toNat < 0x80) : (foldCase c).toNat < 0x80 := by
  have h_all : ∀ n < 0x80, (foldCase (Char.ofNat n)).toNat < 0x80 := by decide +kernel
  have h_char := h_all c.toNat h
  rw [Char.ofNat_toNat] at h_char
  exact h_char

end Text
end PageObjects
