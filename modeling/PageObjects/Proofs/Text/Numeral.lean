/-
  PageObjects.Proofs.Text.Numeral

  Digits and the numbers they write. The digits of a number read back as the number,
  in every base whose digits do, and a number of so many digits is below the power
  of the base. `Writes` is any way to write a number, with zeros before its digits and
  with letters in either case; what is read as a number is exactly what writes it.
-/

import Mathlib.Algebra.Group.Nat.Defs
import Mathlib.Data.List.Forall2
import Mathlib.Data.List.Induction
import PageObjects.Proofs.Text.Split
import PageObjects.Text.Numeral

namespace PageObjects
namespace Text

-- ============================================================================
-- Options in lists
-- ============================================================================

section
variable {α β : Type} {f : α → Option β}

theorem forall₂_of_mapM {l : List α} {r : List β} (h : l.mapM f = some r) :
    List.Forall₂ (fun a b => f a = some b) l r := by
  induction l generalizing r with
  | nil =>
    obtain rfl : [] = r := Option.some.inj h
    exact .nil
  | cons a rest ih =>
    rw [List.mapM_cons] at h
    cases h_a : f a with
    | none => rw [h_a] at h; cases h
    | some b =>
      cases h_rest : rest.mapM f with
      | none => rw [h_a, h_rest] at h; cases h
      | some bs =>
        rw [h_a, h_rest] at h
        obtain rfl : b :: bs = r := Option.some.inj h
        exact .cons h_a (ih h_rest)

theorem exists_of_mem_mapM {l : List α} {r : List β} (h : l.mapM f = some r) {b : β}
    (h_mem : b ∈ r) : ∃ a ∈ l, f a = some b := by
  have h_all := forall₂_of_mapM h
  clear h
  induction h_all with
  | nil => cases h_mem
  | cons h_first _ ih =>
    rcases List.mem_cons.mp h_mem with rfl | h_mem
    · exact ⟨_, List.mem_cons_self, h_first⟩
    · obtain ⟨a, h_a, h_f⟩ := ih h_mem
      exact ⟨a, List.mem_cons_of_mem _ h_a, h_f⟩

theorem exists_of_mapM_of_mem {l : List α} {r : List β} (h : l.mapM f = some r) {a : α}
    (h_mem : a ∈ l) : ∃ b, f a = some b := by
  have h_all := forall₂_of_mapM h
  clear h
  induction h_all with
  | nil => cases h_mem
  | cons h_first _ ih =>
    rcases List.mem_cons.mp h_mem with rfl | h_mem
    · exact ⟨_, h_first⟩
    · exact ih h_mem

theorem mapM_of_forall {g : α → β} {l : List α} (h : ∀ a ∈ l, f a = some (g a)) :
    l.mapM f = some (l.map g) := by
  induction l with
  | nil => rfl
  | cons a rest ih =>
    rw [List.mapM_cons, h a List.mem_cons_self,
      ih fun b h_mem => h b (List.mem_cons_of_mem a h_mem)]
    rfl

end

-- ============================================================================
-- Digits
-- ============================================================================

variable {base : Nat}

theorem ofDigits_append_singleton (ds : List Nat) (d : Nat) :
    ofDigits base (ds ++ [d]) = ofDigits base ds * base + d := by
  rw [ofDigits, List.foldl_append]
  rfl

theorem ofDigits_lt {ds : List Nat} (h : ∀ d ∈ ds, d < base) :
    ofDigits base ds < base ^ ds.length := by
  induction ds using List.reverseRecOn with
  | nil => exact Nat.one_pos
  | append_singleton ds d ih =>
    have h_front := ih fun e h_mem => h e (List.mem_append_left _ h_mem)
    have h_last : d < base := h d (List.mem_append_right _ (List.mem_singleton_self d))
    rw [ofDigits_append_singleton, List.length_append, List.length_singleton, Nat.pow_succ]
    calc ofDigits base ds * base + d < ofDigits base ds * base + base := by omega
      _ = (ofDigits base ds + 1) * base := (Nat.succ_mul _ _).symm
      _ ≤ base ^ ds.length * base := Nat.mul_le_mul_right base h_front

theorem digit?_lt {c : Char} {d : Nat} (h : digit? base c = some d) : d < base :=
  of_decide_eq_true (Option.filter_eq_some_iff.mp h).2

theorem digitsNat?_lt {s : List Char} {n : Nat} (h : digitsNat? base s = some n) :
    n < base ^ s.length := by
  rw [digitsNat?] at h
  split at h
  · cases h
  · cases h_digits : s.mapM (digit? base) with
    | none => rw [h_digits] at h; cases h
    | some ds =>
      rw [h_digits] at h
      obtain rfl : ofDigits base ds = n := Option.some.inj h
      rw [(forall₂_of_mapM h_digits).length_eq]
      refine ofDigits_lt fun d h_mem => ?_
      obtain ⟨c, -, h_c⟩ := exists_of_mem_mapM h_digits h_mem
      exact digit?_lt h_c

/-- The digits of a base read back. -/
def ReadsDigits (base : Nat) : Prop :=
  ∀ d < base, digit? base d.digitChar = some d

theorem readsDigits_ten : ReadsDigits 10 := by
  have h_all : ∀ d < 10, digit? 10 d.digitChar = some d := by decide
  exact h_all

theorem readsDigits_sixteen : ReadsDigits 16 := by
  have h_all : ∀ d < 16, digit? 16 d.digitChar = some d := by decide
  exact h_all

theorem exists_of_mem_toDigits (h_base : 1 < base) {n : Nat} {c : Char}
    (h : c ∈ Nat.toDigits base n) : ∃ d < base, c = d.digitChar := by
  induction n using Nat.strongRecOn with
  | ind n ih =>
    rcases Nat.lt_or_ge n base with h_lt | h_ge
    · rw [Nat.toDigits_of_lt_base h_lt, List.mem_singleton] at h
      exact ⟨n, h_lt, h⟩
    · rw [Nat.toDigits_of_base_le h_base h_ge] at h
      rcases List.mem_append.mp h with h | h
      · exact ih (n / base) (Nat.div_lt_self (by omega) h_base) h
      · exact ⟨n % base, Nat.mod_lt n (by omega), List.mem_singleton.mp h⟩

theorem exists_digits (h_base : 1 < base) (h : ReadsDigits base) (n : Nat) :
    ∃ ds, (Nat.toDigits base n).mapM (digit? base) = some ds ∧ ofDigits base ds = n := by
  induction n using Nat.strongRecOn with
  | ind n ih =>
    rcases Nat.lt_or_ge n base with h_lt | h_ge
    · refine ⟨[n], ?_, ?_⟩
      · rw [Nat.toDigits_of_lt_base h_lt, List.mapM_cons, h n h_lt]
        rfl
      · rw [ofDigits, List.foldl_cons, List.foldl_nil, Nat.zero_mul, Nat.zero_add]
    · obtain ⟨ds, h_ds, h_value⟩ := ih (n / base) (Nat.div_lt_self (by omega) h_base)
      have h_mod : n % base < base := Nat.mod_lt n (by omega)
      refine ⟨ds ++ [n % base], ?_, ?_⟩
      · rw [Nat.toDigits_of_base_le h_base h_ge, List.mapM_append, h_ds, List.mapM_cons,
          h _ h_mod]
        rfl
      · rw [ofDigits_append_singleton, h_value, Nat.mul_comm]
        exact Nat.div_add_mod n base

/-- The digits of a number read back as the number. -/
theorem digitsNat?_toDigits (h_base : 1 < base) (h : ReadsDigits base) (n : Nat) :
    digitsNat? base (Nat.toDigits base n) = some n := by
  obtain ⟨ds, h_ds, h_value⟩ := exists_digits h_base h n
  rw [digitsNat?, if_neg (by simp [Nat.toDigits_ne_nil]), h_ds, Option.map_some, h_value]

-- ============================================================================
-- Spellings
-- ============================================================================

section spellings

variable {c : Char} {s : List Char} {n d : Nat}

theorem toNat_toLower (c : Char) :
    c.toLower.toNat = if 65 ≤ c.toNat ∧ c.toNat ≤ 90 then c.toNat + 32 else c.toNat := by
  have h_iff : (c.val ≥ 'A'.val ∧ c.val ≤ 'Z'.val) ↔ 65 ≤ c.toNat ∧ c.toNat ≤ 90 := Iff.rfl
  delta Char.toLower
  by_cases h : 65 ≤ c.toNat ∧ c.toNat ≤ 90
  · have h_sum : (c.val + 32).toNat = (c.val.toNat + 32) % 2 ^ 32 := UInt32.toNat_add c.val 32
    have h_le : c.val.toNat ≤ 90 := h.2
    rw [Nat.mod_eq_of_lt (by omega)] at h_sum
    simp only [h_iff, h, and_self, if_true, dite_true]
    exact h_sum
  · simp only [h_iff, h, if_false, dite_false]

/-- The value of a digit does not depend on its case. -/
theorem digit?_toLower (base : Nat) (c : Char) : digit? base c.toLower = digit? base c := by
  simp only [digit?, toNat_toLower]
  grind

/-- A digit is a letter or a decimal digit, and in lower case it is the usual one for its value. -/
theorem shape_of_digit? (h : digit? base c = some d) :
    c.isAlphanum = true ∧ c.toLower = d.digitChar := by
  have h_all : ∀ n < 0x80, ∀ d ∈ digit? 16 (Char.ofNat n),
      (Char.ofNat n).isAlphanum = true ∧ (Char.ofNat n).toLower = d.digitChar := by
    decide +kernel
  rw [digit?, Option.filter_eq_some_iff] at h
  obtain ⟨h_value, -⟩ := h
  have h_lt : d < 16 ∧ c.toNat < 0x80 := by grind
  have h_sixteen : digit? 16 c = some d := by
    rw [digit?, Option.filter_eq_some_iff]
    exact ⟨h_value, decide_eq_true h_lt.1⟩
  exact of_ascii
    (motive := fun c => ∀ d ∈ digit? 16 c, c.isAlphanum = true ∧ c.toLower = d.digitChar)
    h_all h_lt.2 d h_sixteen

theorem exists_digit?_of_mem (h : digitsNat? base s = some n) (h_mem : c ∈ s) :
    ∃ d, digit? base c = some d := by
  rw [digitsNat?] at h
  split at h
  · cases h
  · obtain ⟨ds, h_digits, -⟩ := Option.map_eq_some_iff.mp h
    exact exists_of_mapM_of_mem h_digits h_mem

/-- A number as it may be written: any zeros, then its digits, in either case. -/
def Writes (base : Nat) (s : List Char) (n : Nat) : Prop :=
  ∃ zeros, s.map Char.toLower = List.replicate zeros '0' ++ Nat.toDigits base n

theorem ofDigits_zeros (base zeros : Nat) (ds : List Nat) :
    ofDigits base (List.replicate zeros 0 ++ ds) = ofDigits base ds := by
  induction zeros with
  | zero => rfl
  | succ zeros ih =>
    rw [← ih, List.replicate_succ, List.cons_append, ofDigits, List.foldl_cons, Nat.zero_mul]
    rfl

/-- A number is read however it is written. -/
theorem digitsNat?_of_writes (h_base : 1 < base) (h_reads : ReadsDigits base)
    (h : Writes base s n) : digitsNat? base s = some n := by
  obtain ⟨zeros, h_lower⟩ := h
  obtain ⟨ds, h_digits, h_value⟩ := exists_digits h_base h_reads n
  have h_zeros : (List.replicate zeros '0').mapM (digit? base) = some (List.replicate zeros 0) := by
    have h_zero : digit? base '0' = some 0 := h_reads 0 (Nat.lt_of_succ_lt h_base)
    have h_each := mapM_of_forall (f := digit? base) (g := fun _ => 0) (l := List.replicate zeros '0')
      fun c h_mem => List.eq_of_mem_replicate h_mem ▸ h_zero
    rwa [List.map_replicate] at h_each
  have h_mapM : s.mapM (digit? base) = some (List.replicate zeros 0 ++ ds) := by
    have h_same : (s.map Char.toLower).mapM (digit? base) = s.mapM (digit? base) := by
      rw [List.mapM_map]
      exact congrArg (fun f => s.mapM f) (funext (digit?_toLower base))
    rw [← h_same, h_lower, List.mapM_append, h_zeros, h_digits]
    rfl
  have h_ne : s ≠ [] := by
    rintro rfl
    have h_length := congrArg List.length h_lower
    have h_pos := Nat.length_toDigits_pos (b := base) (n := n)
    rw [List.length_append] at h_length
    simp only [List.map_nil, List.length_nil, List.length_replicate] at h_length
    omega
  rw [digitsNat?, if_neg (by simpa using h_ne), h_mapM, Option.map_some, ofDigits_zeros, h_value]

/-- Every run of digits writes a number. -/
theorem exists_digitsNat? (h_ne : s ≠ []) (h : ∀ c ∈ s, (digit? base c).isSome = true) :
    ∃ n, digitsNat? base s = some n := by
  have h_digits : s.mapM (digit? base) = some (s.map fun c => (digit? base c).getD 0) := by
    refine mapM_of_forall fun c h_mem => ?_
    obtain ⟨d, h_d⟩ := Option.isSome_iff_exists.mp (h c h_mem)
    rw [h_d, Option.getD_some]
  exact ⟨_, by rw [digitsNat?, if_neg (by simpa using h_ne), h_digits, Option.map_some]⟩

/-- What is read as a number writes it. -/
theorem writes_of_digitsNat? (h_base : 1 < base) (h : digitsNat? base s = some n) :
    Writes base s n := by
  induction s using List.reverseRecOn generalizing n with
  | nil => cases h
  | append_singleton s c ih =>
    rw [digitsNat?, if_neg (by simp), List.mapM_append] at h
    cases h_front : s.mapM (digit? base) with
    | none => rw [h_front] at h; cases h
    | some ds =>
      cases h_last : digit? base c with
      | none => rw [h_front, List.mapM_cons, h_last] at h; cases h
      | some d =>
        have h_n : ofDigits base (ds ++ [d]) = n := by
          rw [h_front, List.mapM_cons, h_last] at h
          exact Option.some.inj h
        have h_d := digit?_lt h_last
        have h_c := (shape_of_digit? h_last).2
        rw [ofDigits_append_singleton] at h_n
        rw [Writes, List.map_append, List.map_singleton, h_c]
        by_cases h_empty : s = []
        · subst h_empty
          obtain rfl : [] = ds := Option.some.inj h_front
          obtain rfl : d = n := by rw [← h_n, ofDigits, List.foldl_nil, Nat.zero_mul, Nat.zero_add]
          exact ⟨0, by rw [Nat.toDigits_of_lt_base h_d]; rfl⟩
        · obtain ⟨zeros, h_s⟩ := ih (n := ofDigits base ds) (by
            rw [digitsNat?, if_neg (by simpa using h_empty), h_front, Option.map_some])
          rw [h_s, ← h_n]
          rcases Nat.eq_zero_or_pos (ofDigits base ds) with h_zero | h_pos
          · -- all digits before the last one are zeros
            refine ⟨zeros + 1, ?_⟩
            rw [h_zero, Nat.zero_mul, Nat.zero_add, Nat.toDigits_of_lt_base h_d,
              Nat.toDigits_of_lt_base (Nat.zero_lt_of_lt h_base), List.replicate_succ']
            rfl
          · refine ⟨zeros, ?_⟩
            have h_le : base ≤ ofDigits base ds * base + d :=
              Nat.le_add_right_of_le (Nat.le_mul_of_pos_left base h_pos)
            have h_div : (ofDigits base ds * base + d) / base = ofDigits base ds := by
              rw [Nat.mul_comm, Nat.mul_add_div (Nat.zero_lt_of_lt h_base), Nat.div_eq_of_lt h_d,
                Nat.add_zero]
            rw [Nat.toDigits_of_base_le h_base h_le, h_div, Nat.mul_add_mod_of_lt h_d,
              List.append_assoc]

end spellings

end Text
end PageObjects
