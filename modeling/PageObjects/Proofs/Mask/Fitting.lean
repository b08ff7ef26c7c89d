/-
  PageObjects.Proofs.Mask.Fitting

  Values made for a mask fit it, whatever words the generator gives.

  A choice among `n` comes to an end exactly if one of the words to come settles
  it, and then it is the first such word that decides (`choose?_eq_some`). How
  many words a placeholder takes therefore depends on the words themselves, and so
  does the place in the stream at which the next placeholder starts. `DrawsEnd`
  follows the stream through a mask and says of every choice on the way that some
  word settles it; `fillAll?` comes to a value exactly then.

  What a value looks like does not depend on any of this: a choice among `n` is
  below `n`, and each character is made from one choice (`fill?_eq`).
-/

import PageObjects.Mask.Generate
import Mathlib.Data.List.Forall2

namespace PageObjects

namespace Generator

open Text

variable {σ : Type}

-- ============================================================================
-- The stream of words
-- ============================================================================

/-- The state after `k` words. -/
def skip (g : Generator σ) : Nat → σ → σ
  | 0, state => state
  | k + 1, state => g.skip k (g.next state).2

/-- The word that comes after `k` others. -/
def word (g : Generator σ) (k : Nat) (state : σ) : UInt64 :=
  (g.next (g.skip k state)).1

/-- The word settles a choice among `n`. -/
def Settles (n : Nat) (word : UInt64) : Prop :=
  word.toNat % wordSize 32 * n % wordSize 32 ≤ zone n

instance (n : Nat) (word : UInt64) : Decidable (Settles n word) :=
  inferInstanceAs (Decidable (_ ≤ _))

/-- What is chosen among `n` by a word. -/
def pick (n : Nat) (word : UInt64) : Nat :=
  word.toNat % wordSize 32 * n / wordSize 32

theorem pick_lt {n : Nat} (h_n : 0 < n) (word : UInt64) : pick n word < n := by
  refine Nat.div_lt_of_lt_mul ?_
  exact Nat.mul_lt_mul_of_pos_right (Nat.mod_lt _ (by decide)) h_n

/-- The word after `k` others is the first one that settles a choice among `n`. -/
structure SettledAt (g : Generator σ) (n : Nat) (state : σ) (k : Nat) : Prop where
  settles : Settles n (g.word k state)
  first : ∀ j < k, ¬ Settles n (g.word j state)

-- ============================================================================
-- A choice
-- ============================================================================

theorem choose?_succ (g : Generator σ) (n tries : Nat) (state : σ) :
    g.choose? n (tries + 1) state =
      if Settles n (g.word 0 state) then some (pick n (g.word 0 state), g.skip 1 state)
      else g.choose? n tries (g.skip 1 state) := rfl

/-- A choice that the word after `k` others settles is made with more than `k` words. -/
theorem SettledAt.choose? {g : Generator σ} {n k : Nat} {state : σ}
    (h_at : g.SettledAt n state k) {tries : Nat} (h_tries : k < tries) :
    g.choose? n tries state = some (pick n (g.word k state), g.skip (k + 1) state) := by
  induction k generalizing state tries with
  | zero =>
    obtain ⟨tries, rfl⟩ : ∃ t, tries = t + 1 := ⟨tries - 1, by omega⟩
    rw [choose?_succ, if_pos h_at.settles]
  | succ k ih =>
    obtain ⟨tries, rfl⟩ : ∃ t, tries = t + 1 := ⟨tries - 1, by omega⟩
    have h_rest : g.SettledAt n (g.skip 1 state) k :=
      ⟨h_at.settles, fun j h_j => h_at.first (j + 1) (by omega)⟩
    rw [choose?_succ, if_neg (h_at.first 0 (by omega)), ih h_rest (by omega)]
    rfl

/-- A choice that was made was settled by a word within the limit. -/
theorem settledAt_of_choose? {g : Generator σ} {n tries : Nat} {state : σ}
    {chosen : Nat × σ} (h_some : g.choose? n tries state = some chosen) :
    ∃ k, k < tries ∧ g.SettledAt n state k := by
  induction tries generalizing state with
  | zero => simp [Generator.choose?] at h_some
  | succ tries ih =>
    rw [choose?_succ] at h_some
    by_cases h_now : Settles n (g.word 0 state)
    · exact ⟨0, by omega, h_now, fun j h_j => absurd h_j (by omega)⟩
    · rw [if_neg h_now] at h_some
      obtain ⟨k, h_k, h_at⟩ := ih h_some
      refine ⟨k + 1, by omega, h_at.settles, fun j h_j => ?_⟩
      cases j with
      | zero => exact h_now
      | succ j => exact h_at.first j (by omega)

/-- A choice that a limit leaves is the choice for every higher limit. -/
theorem choose?_of_le {g : Generator σ} {n tries more : Nat} (h_le : tries ≤ more) {state : σ}
    {chosen : Nat × σ} (h_some : g.choose? n tries state = some chosen) :
    g.choose? n more state = some chosen := by
  obtain ⟨k, h_k, h_at⟩ := settledAt_of_choose? h_some
  rw [h_at.choose? (Nat.lt_of_lt_of_le h_k h_le), ← h_at.choose? h_k, h_some]

end Generator

namespace Mask

variable {σ : Type}

-- ============================================================================
-- One placeholder
-- ============================================================================

/-- The characters that something is chosen from: the digits, or the letters of a case. -/
inductive Alphabet where
  | digits
  | letters (upper : Bool)

namespace Alphabet

/-- How many characters there are. -/
def size : Alphabet → Nat
  | digits => 10
  | letters _ => 26

/-- The first of the characters. -/
def first : Alphabet → Char
  | digits => '0'
  | letters upper => if upper then 'A' else 'a'

/-- Character `i` of the alphabet. -/
def char (a : Alphabet) (i : Nat) : Char :=
  Char.ofNat (a.first.toNat + i)

theorem size_pos (a : Alphabet) : 0 < a.size := by
  cases a <;> exact Nat.zero_lt_succ _

theorem isDigit_char {i : Nat} (h_i : i < digits.size) : (digits.char i).isDigit := by
  have h_all : ∀ i < 10, (digits.char i).isDigit := by decide
  exact h_all i h_i

theorem isAlpha_char {upper : Bool} {i : Nat} (h_i : i < (letters upper).size) :
    ((letters upper).char i).isAlpha := by
  have h_all : ∀ upper, ∀ i < 26, ((letters upper).char i).isAlpha := by decide
  exact h_all upper i h_i

theorem isUpper_char {upper : Bool} {i : Nat} (h_i : i < (letters upper).size) :
    ((letters upper).char i).isUpper = upper := by
  have h_all : ∀ upper, ∀ i < 26, ((letters upper).char i).isUpper = upper := by decide
  exact h_all upper i h_i

end Alphabet

/-- The letters to choose from, once a coin has decided the case if none is asked for. -/
def lettersFor (g : Generator σ) (uppercase : Option Bool) (state : σ) : Alphabet × σ :=
  match uppercase with
  | some upper => (.letters upper, state)
  | none => (.letters (g.coin state).1, (g.coin state).2)

/-- What a placeholder is chosen from, once the coins for it have been thrown. -/
def alphabetFor (g : Generator σ) (uppercase : Option Bool) (state : σ) :
    Placeholder → Alphabet × σ
  | .digit => (.digits, state)
  | .letter => lettersFor g uppercase state
  | .either =>
    if (g.coin state).1 then (.digits, (g.coin state).2)
    else lettersFor g uppercase (g.coin state).2

/-- A character of the alphabet and the state after the choice of it. -/
def pickFrom (g : Generator σ) (tries : Nat) (a : Alphabet × σ) : Option (Char × σ) :=
  (g.choose? a.1.size tries a.2).map fun chosen => (a.1.char chosen.1, chosen.2)

theorem letter?_eq (g : Generator σ) (tries : Nat) (uppercase : Option Bool) (state : σ) :
    letter? g tries uppercase state = pickFrom g tries (lettersFor g uppercase state) := by
  cases uppercase <;> rfl

/-- After its coins, a placeholder takes one choice from one alphabet. -/
theorem fill?_eq (g : Generator σ) (tries : Nat) (uppercase : Option Bool) (state : σ)
    (p : Placeholder) :
    fill? g tries uppercase state p = pickFrom g tries (alphabetFor g uppercase state p) := by
  cases p with
  | digit => rfl
  | letter => exact letter?_eq g tries uppercase state
  | either =>
    simp only [fill?, alphabetFor]
    split
    · rfl
    · exact letter?_eq g tries uppercase _

/-- The letters to choose from have the case that is asked for. -/
theorem lettersFor_fst (g : Generator σ) (uppercase : Option Bool) (state : σ) :
    ∃ upper, (lettersFor g uppercase state).1 = .letters upper ∧
      ∀ asked, uppercase = some asked → upper = asked := by
  cases uppercase with
  | none => exact ⟨_, rfl, nofun⟩
  | some upper => exact ⟨upper, rfl, fun _ h => Option.some.inj h⟩

-- ============================================================================
-- Fitting
-- ============================================================================

/-- The character of a mask stands for something in the value. -/
def isPlaceholder (c : Char) : Bool :=
  c.isDigit || Text.isLetter c || c == '*'

/-- `value` may stand for the character `c` of a mask. -/
structure Suits (uppercase : Option Bool) (c value : Char) : Prop where
  digit : c.isDigit → value.isDigit
  letter : Text.isLetter c → value.isAlpha
  either : c = '*' → value.isAlphanum
  case : ∀ upper, uppercase = some upper → value.isAlpha → value.isUpper = upper

/-- One character of the value suits each placeholder of the mask, in order, and there
    are no other characters. -/
def Fits (uppercase : Option Bool) (mask value : List Char) : Prop :=
  List.Forall₂ (Suits uppercase) (mask.filter isPlaceholder) value

theorem isLetter_of_isDigit {c : Char} (h_digit : c.isDigit) : Text.isLetter c = false := by
  have h_low : c.toNat < 0x41 := by
    simp only [Char.isDigit, Bool.and_eq_true, decide_eq_true_eq] at h_digit
    have h_le : c.toNat ≤ 57 := h_digit.2
    omega
  -- the table starts above the digits
  exact if_pos h_low

theorem not_isAlpha_of_isDigit {c : Char} (h_digit : c.isDigit) : ¬ c.isAlpha := by
  intro h_alpha
  delta Char.isAlpha Char.isUpper Char.isLower at h_alpha
  simp only [Char.isDigit, Bool.and_eq_true, Bool.or_eq_true, decide_eq_true_eq, ge_iff_le,
    UInt32.le_iff_toNat_le] at h_digit h_alpha
  have h_high : c.toNat ≤ 57 := h_digit.2
  rcases h_alpha with ⟨h_A, -⟩ | ⟨h_a, -⟩
  · have h_low : 65 ≤ c.toNat := h_A
    omega
  · have h_low : 97 ≤ c.toNat := h_a
    omega

/-- A character of the mask stands for something exactly if it is a placeholder. -/
theorem isSome_placeholder? (c : Char) : (placeholder? c).isSome = isPlaceholder c := by
  unfold placeholder? isPlaceholder
  by_cases h_digit : c.isDigit
  · simp [h_digit]
  · by_cases h_letter : Text.isLetter c
    · simp [h_digit, h_letter]
    · by_cases h_star : c = '*'
      · subst h_star
        simp [h_digit, h_letter]
      · simp [h_digit, h_letter, h_star]

theorem suits_of_isDigit {uppercase : Option Bool} {c value : Char}
    (h_letter : Text.isLetter c = false) (h_value : value.isDigit) : Suits uppercase c value where
  digit _ := h_value
  letter h := by simp [h_letter] at h
  either _ := by simp [Char.isAlphanum, h_value]
  case _ _ h := absurd h (not_isAlpha_of_isDigit h_value)

theorem suits_of_isAlpha {uppercase : Option Bool} {c value : Char}
    (h_digit : ¬ c.isDigit) (h_value : value.isAlpha)
    (h_case : ∀ upper, uppercase = some upper → value.isUpper = upper) :
    Suits uppercase c value where
  digit h := absurd h h_digit
  letter _ := h_value
  either _ := by simp [Char.isAlphanum, h_value]
  case upper h _ := h_case upper h

/-- Every letter there is to choose from suits a placeholder that is no digit. -/
theorem suits_lettersFor (g : Generator σ) (uppercase : Option Bool) (state : σ) {c : Char}
    (h_digit : ¬ c.isDigit) {i : Nat} (h_i : i < (lettersFor g uppercase state).1.size) :
    Suits uppercase c ((lettersFor g uppercase state).1.char i) := by
  obtain ⟨upper, h_eq, h_asked⟩ := lettersFor_fst g uppercase state
  rw [h_eq] at h_i ⊢
  refine suits_of_isAlpha h_digit (Alphabet.isAlpha_char h_i) fun asked h_some => ?_
  rw [Alphabet.isUpper_char h_i, h_asked asked h_some]

/-- Whatever is chosen for a placeholder suits it. -/
theorem suits_alphabetFor (g : Generator σ) (uppercase : Option Bool) (state : σ) {c : Char}
    {p : Placeholder} (h_p : placeholder? c = some p) {i : Nat}
    (h_i : i < (alphabetFor g uppercase state p).1.size) :
    Suits uppercase c ((alphabetFor g uppercase state p).1.char i) := by
  unfold placeholder? at h_p
  split at h_p
  case isTrue h_digit =>
    cases h_p
    exact suits_of_isDigit (isLetter_of_isDigit h_digit) (Alphabet.isDigit_char h_i)
  case isFalse h_digit =>
    split at h_p
    case isTrue h_letter =>
      cases h_p
      exact suits_lettersFor g uppercase state h_digit h_i
    case isFalse h_letter =>
      split at h_p
      case isFalse => cases h_p
      case isTrue h_star =>
        cases h_p
        by_cases h_coin : (g.coin state).1 = true
        · simp only [alphabetFor, h_coin, if_true] at h_i ⊢
          exact suits_of_isDigit (by simpa using h_letter) (Alphabet.isDigit_char h_i)
        · simp only [alphabetFor, h_coin] at h_i ⊢
          exact suits_lettersFor g uppercase _ h_digit h_i

-- ============================================================================
-- A whole mask
-- ============================================================================

/-- Every choice that is made for the mask is settled by some word of the stream. -/
def DrawsEnd (g : Generator σ) (uppercase : Option Bool) : σ → List Char → Prop
  | _, [] => True
  | state, c :: rest =>
    match placeholder? c with
    | none => DrawsEnd g uppercase state rest
    | some p =>
      let a := alphabetFor g uppercase state p
      ∃ k, g.SettledAt a.1.size a.2 k ∧ DrawsEnd g uppercase (g.skip (k + 1) a.2) rest

/-- A mask for which there is a value is one whose draws end. -/
theorem drawsEnd_of_fillAll? {g : Generator σ} {uppercase : Option Bool} {tries : Nat}
    {mask values : List Char} {state : σ}
    (h_some : fillAll? g tries uppercase state mask = some values) :
    DrawsEnd g uppercase state mask := by
  induction mask generalizing state values with
  | nil => trivial
  | cons c rest ih =>
    simp only [fillAll?, DrawsEnd] at h_some ⊢
    cases h_p : placeholder? c with
    | none =>
      rw [h_p] at h_some
      exact ih h_some
    | some p =>
      simp only [h_p, fill?_eq, pickFrom, Option.bind_eq_bind, Option.bind_eq_some_iff,
        Option.map_eq_some_iff] at h_some
      obtain ⟨_, ⟨chosen, h_choose, rfl⟩, values, h_values, -⟩ := h_some
      obtain ⟨k, h_k, h_at⟩ := Generator.settledAt_of_choose? h_choose
      rw [h_at.choose? h_k] at h_choose
      cases h_choose
      exact ⟨k, h_at, ih h_values⟩

/-- A value that a limit leaves is the value for every higher limit. -/
theorem fillAll?_of_le {g : Generator σ} {uppercase : Option Bool} {tries more : Nat}
    (h_le : tries ≤ more) {mask values : List Char} {state : σ}
    (h_some : fillAll? g tries uppercase state mask = some values) :
    fillAll? g more uppercase state mask = some values := by
  induction mask generalizing state values with
  | nil => exact h_some
  | cons c rest ih =>
    simp only [fillAll?] at h_some ⊢
    cases h_p : placeholder? c with
    | none =>
      rw [h_p] at h_some
      exact ih h_some
    | some p =>
      simp only [h_p, fill?_eq, pickFrom, Option.bind_eq_bind, Option.bind_eq_some_iff,
        Option.map_eq_some_iff] at h_some ⊢
      obtain ⟨filled, ⟨chosen, h_choose, h_filled⟩, values, h_values, h_eq⟩ := h_some
      exact ⟨filled, ⟨chosen, Generator.choose?_of_le h_le h_choose, h_filled⟩, values,
        ih h_values, h_eq⟩

/-- If the draws end, every limit from some number on leaves the same value, and it fits. -/
theorem DrawsEnd.fillAll? {g : Generator σ} {uppercase : Option Bool} {mask : List Char}
    {state : σ} (h_end : DrawsEnd g uppercase state mask) :
    ∃ values, Fits uppercase mask values ∧
      ∃ enough, ∀ tries, enough ≤ tries →
        fillAll? g tries uppercase state mask = some values := by
  induction mask generalizing state with
  | nil => exact ⟨[], .nil, 0, fun _ _ => rfl⟩
  | cons c rest ih =>
    simp only [DrawsEnd] at h_end
    cases h_p : placeholder? c with
    | none =>
      rw [h_p] at h_end
      obtain ⟨values, h_fits, enough, h_all⟩ := ih h_end
      have h_not : isPlaceholder c = false := by rw [← isSome_placeholder?, h_p]; rfl
      refine ⟨values, ?_, enough, fun tries h_le => ?_⟩
      · rwa [Fits, List.filter_cons_of_neg (by simp [h_not])]
      · simpa only [Mask.fillAll?, h_p] using h_all tries h_le
    | some p =>
      rw [h_p] at h_end
      obtain ⟨k, h_at, h_rest⟩ := h_end
      obtain ⟨values, h_fits, enough, h_all⟩ := ih h_rest
      have h_is : isPlaceholder c = true := by rw [← isSome_placeholder?, h_p]; rfl
      have h_suits := fun i h_i => suits_alphabetFor g uppercase state h_p (i := i) h_i
      generalize h_a : alphabetFor g uppercase state p = a at h_at h_rest h_suits h_all
      refine ⟨a.1.char (Generator.pick a.1.size (g.word k a.2)) :: values, ?_,
        max enough (k + 1), fun tries h_le => ?_⟩
      · rw [Fits, List.filter_cons_of_pos h_is]
        exact .cons (h_suits _ (Generator.pick_lt a.1.size_pos (g.word k a.2))) h_fits
      · have h_choose : g.choose? a.1.size tries a.2 = _ := h_at.choose? (by omega)
        simp only [Mask.fillAll?, h_p, fill?_eq, pickFrom, h_a, h_choose, h_all tries (by omega),
          Option.map_some, Option.bind_eq_bind, Option.bind_some]

/-- If the draws end, there is one value for the mask: every limit from some number on
    leaves it and no limit leaves another. It has a character for each placeholder of the
    mask, in order, and no other characters. -/
theorem generate?_fits (g : Generator σ) (uppercase : Option Bool) (state : σ) (mask : String)
    (h_end : DrawsEnd g uppercase state mask.toList) :
    ∃ value : String, Fits uppercase mask.toList value.toList ∧
      (∃ enough, ∀ tries, enough ≤ tries →
        generate? g tries uppercase state mask = some value) ∧
      ∀ tries, generate? g tries uppercase state mask = none ∨
        generate? g tries uppercase state mask = some value := by
  obtain ⟨values, h_fits, enough, h_all⟩ := h_end.fillAll?
  refine ⟨String.ofList values, by simpa using h_fits, ⟨enough, fun tries h_le => ?_⟩,
    fun tries => ?_⟩
  · rw [generate?, h_all tries h_le, Option.map_some]
  · cases h_some : fillAll? g tries uppercase state mask.toList with
    | none => exact .inl (by rw [generate?, h_some, Option.map_none])
    | some others =>
      have h_more := fillAll?_of_le (Nat.le_max_left tries enough) h_some
      rw [h_all _ (Nat.le_max_right tries enough)] at h_more
      cases h_more
      exact .inr (by rw [generate?, h_some, Option.map_some])

/-- A mask with each kind of placeholder, a letter beyond ASCII and some punctuation. -/
theorem generate?_fits_telephone :
    DrawsEnd Generator.splitMix (some true) 7 "(9a) é-**".toList ∧
      ∃ value : String, Fits (some true) "(9a) é-**".toList value.toList ∧
        (∃ enough, ∀ tries, enough ≤ tries →
          generate? Generator.splitMix tries (some true) 7 "(9a) é-**" = some value) ∧
        ∀ tries, generate? Generator.splitMix tries (some true) 7 "(9a) é-**" = none ∨
          generate? Generator.splitMix tries (some true) 7 "(9a) é-**" = some value := by
  have h_end : DrawsEnd Generator.splitMix (some true) 7 "(9a) é-**".toList := by
    have h_some : (fillAll? Generator.splitMix 3 (some true) 7 "(9a) é-**".toList).isSome := by
      decide +kernel
    obtain ⟨values, h_values⟩ := Option.isSome_iff_exists.mp h_some
    exact drawsEnd_of_fillAll? h_values
  exact ⟨h_end, generate?_fits Generator.splitMix (some true) 7 "(9a) é-**" h_end⟩

end Mask
end PageObjects
