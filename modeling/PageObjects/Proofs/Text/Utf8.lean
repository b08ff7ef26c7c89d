/-
  PageObjects.Proofs.Text.Utf8

  Reading bytes as text. The bytes of a character are read as that character, whatever
  stands behind them. A byte of ASCII stands for itself, whatever stands before it: the
  bytes of a character that it cuts short are read as they are at the end of a text.

    * `units_encode`: the bytes of a text are read as that text.
    * `units_append`: the bytes before and behind a byte of ASCII are read on their own.
-/

import PageObjects.Text.Utf8

namespace PageObjects
namespace Utf8

variable {c : Char} {b first mark n : Nat} {bytes : List Nat}

-- ============================================================================
-- The bytes of a character
-- ============================================================================

theorem behindFirst_ascii (h : first < 0x80) (bytes : List Nat) :
    behindFirst first bytes = (some (Char.ofNat first), bytes) := by
  have h_width : width first = 1 := if_pos h
  unfold behindFirst
  rw [h_width]

/-- The first byte of a longer character is followed by a second one in a range of its own. -/
theorem behindFirst_cons (h_width : width first = n + 2) (h_lo : (secondRange first).1 ≤ b)
    (h_hi : b ≤ (secondRange first).2) (bytes : List Nat) :
    behindFirst first (b :: bytes) = continued
      ((if n = 0 then first - 0xc0 else if n = 1 then first - 0xe0 else first - 0xf0) * 0x40
        + (b - 0x80)) n bytes := by
  unfold behindFirst
  rw [h_width]
  dsimp only
  rw [decide_eq_true h_lo, decide_eq_true h_hi]
  exact if_pos rfl

theorem continued_cons (h_lo : 0x80 ≤ b) (h_hi : b < 0xc0) (acc missing : Nat) (bytes : List Nat) :
    continued acc (missing + 1) (b :: bytes)
      = continued (acc * 0x40 + (b - 0x80)) missing bytes := by
  rw [continued, isContinuation, decide_eq_true h_lo, decide_eq_true h_hi]
  exact if_pos rfl

theorem units_cons (first : Nat) (bytes : List Nat) :
    units (first :: bytes) = (behindFirst first bytes).1 :: units (behindFirst first bytes).2 := by
  rw [units]

theorem behindFirst_two (h_lo : 0x80 ≤ n) (h_hi : n < 0x800) (bytes : List Nat) :
    behindFirst (0xc0 + n / 0x40) ((0x80 + n % 0x40) :: bytes) = (some (Char.ofNat n), bytes) := by
  have h_width : width (0xc0 + n / 0x40) = 0 + 2 := by
    rw [width, if_neg (by omega), if_pos (by omega)]
  have h_range : secondRange (0xc0 + n / 0x40) = (0x80, 0xbf) := by
    rw [secondRange, if_neg (by omega), if_neg (by omega), if_neg (by omega), if_neg (by omega)]
  have h_value : (0xc0 + n / 0x40 - 0xc0) * 0x40 + (0x80 + n % 0x40 - 0x80) = n := by omega
  rw [behindFirst_cons h_width (by rw [h_range]; omega) (by rw [h_range]; omega), if_pos rfl,
    h_value, continued]

/-- The second byte of three tells apart what two bytes would do for, and leaves out the halves of
    pairs. -/
theorem behindFirst_three (h_lo : 0x800 ≤ n) (h_hi : n < 0x10000)
    (h_valid : n < 0xd800 ∨ 0xdfff < n) (bytes : List Nat) :
    behindFirst (0xe0 + n / 0x1000)
        ((0x80 + n / 0x40 % 0x40) :: (0x80 + n % 0x40) :: bytes)
      = (some (Char.ofNat n), bytes) := by
  have h_width : width (0xe0 + n / 0x1000) = 1 + 2 := by
    rw [width, if_neg (by omega), if_neg (by omega), if_pos (by omega)]
  have h_range : (secondRange (0xe0 + n / 0x1000)).1 ≤ 0x80 + n / 0x40 % 0x40
      ∧ 0x80 + n / 0x40 % 0x40 ≤ (secondRange (0xe0 + n / 0x1000)).2 := by
    simp only [secondRange]
    split
    · constructor <;> dsimp only <;> omega
    · split
      · constructor <;> dsimp only <;> omega
      · rw [if_neg (by omega), if_neg (by omega)]
        constructor <;> dsimp only <;> omega
  have h_value : ((0xe0 + n / 0x1000 - 0xe0) * 0x40 + (0x80 + n / 0x40 % 0x40 - 0x80)) * 0x40
      + (0x80 + n % 0x40 - 0x80) = n := by omega
  rw [behindFirst_cons h_width h_range.1 h_range.2, if_neg (by decide), if_pos rfl,
    continued_cons (by omega) (by omega), h_value, continued]

/-- The second byte of four tells apart what three bytes would do for, and ends where the characters
    end. -/
theorem behindFirst_four (h_lo : 0x10000 ≤ n) (h_hi : n < 0x110000) (bytes : List Nat) :
    behindFirst (0xf0 + n / 0x40000)
        ((0x80 + n / 0x1000 % 0x40) :: (0x80 + n / 0x40 % 0x40) :: (0x80 + n % 0x40) :: bytes)
      = (some (Char.ofNat n), bytes) := by
  have h_width : width (0xf0 + n / 0x40000) = 2 + 2 := by
    rw [width, if_neg (by omega), if_neg (by omega), if_neg (by omega), if_pos (by omega)]
  have h_range : (secondRange (0xf0 + n / 0x40000)).1 ≤ 0x80 + n / 0x1000 % 0x40
      ∧ 0x80 + n / 0x1000 % 0x40 ≤ (secondRange (0xf0 + n / 0x40000)).2 := by
    simp only [secondRange]
    rw [if_neg (by omega), if_neg (by omega)]
    split
    · constructor <;> dsimp only <;> omega
    · split
      · constructor <;> dsimp only <;> omega
      · constructor <;> dsimp only <;> omega
  have h_value : (((0xf0 + n / 0x40000 - 0xf0) * 0x40 + (0x80 + n / 0x1000 % 0x40 - 0x80)) * 0x40
      + (0x80 + n / 0x40 % 0x40 - 0x80)) * 0x40 + (0x80 + n % 0x40 - 0x80) = n := by omega
  rw [behindFirst_cons h_width h_range.1 h_range.2, if_neg (by decide), if_neg (by decide),
    continued_cons (by omega) (by omega), continued_cons (by omega) (by omega), h_value, continued]

/-- The bytes of a character are read as that character. -/
theorem units_encodeChar_append (c : Char) (bytes : List Nat) :
    units (encodeChar c ++ bytes) = some c :: units bytes := by
  have h_valid : c.toNat < 0xd800 ∨ 0xdfff < c.toNat ∧ c.toNat < 0x110000 := c.valid
  simp only [encodeChar]
  split
  · rename_i h_one
    rw [List.cons_append, List.nil_append, units_cons, behindFirst_ascii h_one, Char.ofNat_toNat]
  · split
    · rename_i h_one h_two
      rw [List.cons_append, List.cons_append, List.nil_append, units_cons,
        behindFirst_two (Nat.not_lt.1 h_one) h_two, Char.ofNat_toNat]
    · split
      · rename_i h_two h_three
        rw [List.cons_append, List.cons_append, List.cons_append, List.nil_append, units_cons,
          behindFirst_three (Nat.not_lt.1 h_two) h_three (h_valid.imp_right And.left),
          Char.ofNat_toNat]
      · rename_i h_three
        rw [List.cons_append, List.cons_append, List.cons_append, List.cons_append,
          List.nil_append, units_cons, behindFirst_four (Nat.not_lt.1 h_three) (by omega),
          Char.ofNat_toNat]

theorem units_nil : units [] = [] := by
  rw [units]

/-- The bytes of a text are read as that text. -/
theorem units_encode (s : List Char) : units (encode s) = s.map some := by
  induction s with
  | nil => exact units_nil
  | cons c rest ih =>
    rw [encode, List.flatMap_cons, units_encodeChar_append, List.map_cons]
    exact congrArg (some c :: ·) ih

theorem decodeLossy_encode (s : List Char) : decodeLossy (encode s) = s := by
  rw [decodeLossy, units_encode, List.map_map]
  exact List.map_id s

-- ============================================================================
-- A byte of ASCII
-- ============================================================================

theorem le_secondRange (first : Nat) : 0x80 ≤ (secondRange first).1 := by
  simp only [secondRange]
  split
  · decide
  · split
    · decide
    · split
      · decide
      · split <;> decide

theorem continued_append (h : mark < 0x80) (acc missing : Nat) (bytes behind : List Nat) :
    continued acc missing (bytes ++ mark :: behind)
      = ((continued acc missing bytes).1, (continued acc missing bytes).2 ++ mark :: behind) := by
  have h_mark : isContinuation mark = false := by
    rw [isContinuation, decide_eq_false (Nat.not_le.2 h)]
    rfl
  induction missing generalizing acc bytes with
  | zero => rfl
  | succ missing ih =>
    cases bytes with
    | nil =>
      rw [List.nil_append, continued, h_mark]
      rfl
    | cons b bytes =>
      rw [List.cons_append, continued, continued]
      split
      · exact ih _ bytes
      · rfl

/-- A byte of ASCII does not continue a character. -/
theorem behindFirst_append (h : mark < 0x80) (first : Nat) (bytes behind : List Nat) :
    behindFirst first (bytes ++ mark :: behind)
      = ((behindFirst first bytes).1, (behindFirst first bytes).2 ++ mark :: behind) := by
  have h_low : decide ((secondRange first).1 ≤ mark) = false :=
    decide_eq_false (Nat.not_le.2 (Nat.lt_of_lt_of_le h (le_secondRange first)))
  unfold behindFirst
  cases width first with
  | zero => rfl
  | succ more =>
    cases more with
    | zero => rfl
    | succ more =>
      cases bytes with
      | nil =>
        dsimp only [List.nil_append]
        rw [h_low]
        rfl
      | cons b bytes =>
        dsimp only [List.cons_append]
        split
        · exact continued_append h _ _ bytes behind
        · rfl

/-- What stands before a byte of ASCII is read without what stands behind it. -/
theorem units_append (h : mark < 0x80) (bytes behind : List Nat) :
    units (bytes ++ mark :: behind) = units bytes ++ some (Char.ofNat mark) :: units behind := by
  induction bytes using units.induct with
  | case1 => rw [List.nil_append, units_cons, behindFirst_ascii h, units_nil, List.nil_append]
  | case2 first bytes ih =>
    rw [List.cons_append, units_cons, units_cons first bytes, behindFirst_append h, ih,
      List.cons_append]

theorem decodeLossy_append (h : mark < 0x80) (bytes behind : List Nat) :
    decodeLossy (bytes ++ mark :: behind)
      = decodeLossy bytes ++ Char.ofNat mark :: decodeLossy behind := by
  rw [decodeLossy, units_append h, List.map_append]
  rfl

end Utf8
end PageObjects
