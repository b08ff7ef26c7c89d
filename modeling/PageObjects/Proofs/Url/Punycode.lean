/-
  PageObjects.Proofs.Url.Punycode

  The ASCII form of a label is read back as the label. The encoder writes the other
  characters code point by code point and passes over the label once for each, and
  the decoder puts them into what it has read so far. Both count the same pairs of
  a code point and a place, which is the invariant that ties them together.

    * `decodeNumber?_encodeNumber`: a number is read back with any text behind it.
    * `Follows.pass`, `Follows.fold`: the decoder follows the encoder over the label.
    * `mem_encode`: the characters of an encoded label.
    * `decode?_encode`: a label is decoded from its encoded form.
-/

import PageObjects.Proofs.Text.Split
import PageObjects.Url.Punycode

namespace PageObjects
namespace Punycode

variable {basic label before after : List Char} {e : Encoder} {m : Nat}

-- ============================================================================
-- Numbers
-- ============================================================================

theorem digitValue?_digitChar {d : Nat} (h : d < 36) : digitValue? (digitChar d) = some d := by
  have h_all : ∀ d < 36, digitValue? (digitChar d) = some d := by decide
  exact h_all d h

/-- A number is written in digits only. -/
theorem exists_digit_of_mem_encodeNumber {bias k q : Nat} {c : Char}
    (h : c ∈ encodeNumber bias k q) : ∃ d < 36, c = digitChar d := by
  induction q using Nat.strongRecOn generalizing k with
  | ind q ih =>
    have h_pos := threshold_pos k bias
    have h_le := threshold_le k bias
    rw [encodeNumber] at h
    split at h
    · exact ⟨q, by omega, List.mem_singleton.mp h⟩
    · have h_mod : (q - threshold k bias) % (36 - threshold k bias) < 36 - threshold k bias :=
        Nat.mod_lt _ (by omega)
      have h_div := Nat.div_le_self (q - threshold k bias) (36 - threshold k bias)
      rcases List.mem_cons.mp h with rfl | h
      · exact ⟨_, by omega, rfl⟩
      · exact ih _ (by omega) h

theorem encodeNumber_ne_nil (bias k q : Nat) : encodeNumber bias k q ≠ [] := by
  rw [encodeNumber]
  split
  · exact List.cons_ne_nil _ _
  · exact List.cons_ne_nil _ _

/-- A number is read back on top of what was read before, with any text behind it. -/
theorem decodeNumber?_encodeNumber (bias i weight k q : Nat) (rest : List Char) :
    decodeNumber? bias i weight k (encodeNumber bias k q ++ rest)
      = some (i + q * weight, rest) := by
  induction q using Nat.strongRecOn generalizing i weight k with
  | ind q ih =>
    have h_pos := threshold_pos k bias
    have h_le := threshold_le k bias
    rw [encodeNumber]
    split
    · rename_i h_last
      rw [List.cons_append, List.nil_append, decodeNumber?, digitValue?_digitChar (by omega)]
      exact if_pos h_last
    · have h_mod : (q - threshold k bias) % (36 - threshold k bias) < 36 - threshold k bias :=
        Nat.mod_lt _ (by omega)
      have h_div := Nat.div_le_self (q - threshold k bias) (36 - threshold k bias)
      have h_split : threshold k bias + (q - threshold k bias) % (36 - threshold k bias)
          + (36 - threshold k bias) * ((q - threshold k bias) / (36 - threshold k bias)) = q := by
        rw [Nat.add_assoc, Nat.mod_add_div]
        omega
      rw [List.cons_append, decodeNumber?, digitValue?_digitChar (by omega), Option.bind_eq_bind,
        Option.bind_some]
      dsimp only
      rw [if_neg (by omega), ih _ (by omega)]
      generalize (q - threshold k bias) % (36 - threshold k bias) = r at h_split
      generalize (q - threshold k bias) / (36 - threshold k bias) = d at h_split
      rw [Nat.add_assoc, ← Nat.mul_assoc, Nat.mul_comm d weight, Nat.mul_assoc,
        Nat.mul_comm _ weight, ← Nat.mul_add, Nat.mul_comm d, h_split, Nat.mul_comm weight]

-- ============================================================================
-- One character
-- ============================================================================

/-- The number of pairs up to the character `m` at the place `place` puts it there. -/
theorem decodeFrom?_encodeNumber (bias : Nat) {n i delta place : Nat} {out : List Char}
    (h_count : n * (out.length + 1) + (i + delta) = m * (out.length + 1) + place)
    (h_place : place ≤ out.length) (h_other : 0x80 ≤ m) (h_valid : m.isValidChar)
    (rest : List Char) :
    decodeFrom? n i bias out (encodeNumber bias 36 delta ++ rest)
      = decodeFrom? m (place + 1) (adapt delta (out.length + 1) (i == 0))
          (out.take place ++ Char.ofNat m :: out.drop place) rest := by
  have h_number := decodeNumber?_encodeNumber bias i 1 36 delta rest
  rw [Nat.mul_one] at h_number
  have h_point : n + (i + delta) / (out.length + 1) = m := by
    rw [← Nat.mul_add_div (Nat.succ_pos _), Nat.mul_comm, h_count, Nat.mul_comm,
      Nat.mul_add_div (Nat.succ_pos _), Nat.div_eq_of_lt (by omega), Nat.add_zero]
  have h_mod : (i + delta) % (out.length + 1) = place := by
    rw [← Nat.mul_add_mod (out.length + 1) n, Nat.mul_comm, h_count, Nat.mul_comm, Nat.mul_add_mod,
      Nat.mod_eq_of_lt (by omega)]
  have h_text : (encodeNumber bias 36 delta ++ rest).isEmpty = false :=
    List.isEmpty_eq_false_iff.mpr
      (List.append_ne_nil_of_left_ne_nil (encodeNumber_ne_nil bias 36 delta) rest)
  rw [decodeFrom?, h_text, if_neg Bool.false_ne_true]
  split
  · rename_i h_none
    rw [h_number] at h_none
    cases h_none
  · rename_i j behind h_some
    rw [h_number] at h_some
    obtain ⟨rfl, rfl⟩ := Prod.mk.inj (Option.some.inj h_some)
    dsimp only
    rw [h_point, h_mod, if_pos ⟨h_other, h_valid⟩, Nat.add_sub_cancel_left]

-- ============================================================================
-- The decoder behind the encoder
-- ============================================================================

/-- The decoder has put everything that the encoder has written into `out`, and from where it
    stands to the character `m` at the place `place` there are as many pairs as the encoder has
    counted. -/
structure Follows (basic : List Char) (m place : Nat) (out : List Char) (e : Encoder) : Prop where
  basic_le : e.basic ≤ e.written
  size : e.written = out.length
  reads : ∃ (written : List Char) (n i : Nat),
    e.text = (if basic.isEmpty then [] else basic ++ ['-']) ++ written
      ∧ (∀ c ∈ written, ∃ d < 36, c = digitChar d)
      ∧ (∀ rest, decodeFrom? 0x80 0 72 basic (written ++ rest) = decodeFrom? n i e.bias out rest)
      ∧ (e.written = e.basic ↔ i = 0)
      ∧ n * (out.length + 1) + (i + e.delta) = m * (out.length + 1) + place

/-- What the decoder has read when the encoder has passed over `before` for the character `m`. -/
abbrev readSoFar (m : Nat) (before after : List Char) : List Char :=
  before.filter (·.toNat ≤ m) ++ after.filter (·.toNat < m)

theorem Follows.count {place delta : Nat} {out : List Char} (h : Follows basic m place out e)
    {m' place' : Nat} (h_delta : m * (out.length + 1) + place + delta
      = m' * (out.length + 1) + place' + e.delta) :
    Follows basic m' place' out { e with delta } := by
  obtain ⟨written, n, i, h_text, h_digits, h_reads, h_first, h_count⟩ := h.reads
  exact ⟨h.basic_le, h.size, written, n, i, h_text, h_digits, h_reads, h_first, by
    dsimp only
    omega⟩

/-- A character that is written is put where the decoder has counted to. -/
theorem Follows.write {a b : List Char} {c : Char} (h_other : 0x80 ≤ c.toNat)
    (h : Follows basic c.toNat a.length (a ++ b) e) :
    Follows basic c.toNat (a.length + 1) (a ++ c :: b)
      { e with
        delta := 0
        bias := adapt e.delta (e.written + 1) (e.written == e.basic)
        written := e.written + 1
        text := e.text ++ encodeNumber e.bias 36 e.delta } := by
  obtain ⟨written, n, i, h_text, h_digits, h_reads, h_first, h_count⟩ := h.reads
  have h_basic := h.basic_le
  have h_size := h.size
  have h_place := decodeFrom?_encodeNumber e.bias h_count (by simp) h_other c.valid
  rw [List.take_left, List.drop_left, Char.ofNat_toNat] at h_place
  have h_start : (i == 0) = (e.written == e.basic) := by
    rw [Bool.eq_iff_iff, beq_iff_eq, beq_iff_eq, h_first]
  refine ⟨Nat.le_succ_of_le h_basic, ?_,
    written ++ encodeNumber e.bias 36 e.delta, c.toNat, a.length + 1, ?_, ?_, fun rest => ?_, ?_,
    ?_⟩
  · rw [List.length_append, List.length_cons, ← Nat.add_assoc, ← List.length_append, ← h_size]
  · rw [h_text, List.append_assoc]
  · intro d h_mem
    rcases List.mem_append.mp h_mem with h_mem | h_mem
    · exact h_digits d h_mem
    · exact exists_digit_of_mem_encodeNumber h_mem
  · rw [List.append_assoc, h_reads, h_place, h_start, ← h_size]
  · dsimp only
    omega
  · rfl

theorem filter_concat (p : Char → Bool) (s : List Char) (c : Char) :
    (s ++ [c]).filter p = s.filter p ++ if p c then [c] else [] := by
  rw [List.filter_append, List.filter_cons, List.filter_nil]

/-- Passing over one character keeps the decoder behind the encoder. -/
theorem Follows.pass {c : Char} (h_other : 0x80 ≤ m)
    (h : Follows basic m (before.filter (·.toNat ≤ m)).length
      (readSoFar m before (c :: after)) e) :
    Follows basic m ((before ++ [c]).filter (·.toNat ≤ m)).length
      (readSoFar m (before ++ [c]) after) (e.pass m c) := by
  rw [Encoder.pass]
  rcases Nat.lt_trichotomy c.toNat m with h_lt | h_eq | h_gt
  · -- a smaller character is read already, so only its place counts
    have h_concat : (before ++ [c]).filter (·.toNat ≤ m) = before.filter (·.toNat ≤ m) ++ [c] := by
      rw [filter_concat, if_pos (decide_eq_true h_lt.le)]
    have h_read : readSoFar m (before ++ [c]) after = readSoFar m before (c :: after) := by
      rw [readSoFar, readSoFar, h_concat, List.filter_cons, if_pos (decide_eq_true h_lt),
        List.append_assoc, List.singleton_append]
    have h_length := congrArg List.length h_concat
    rw [List.length_append, List.length_singleton] at h_length
    rw [if_pos h_lt, h_read]
    refine h.count ?_
    omega
  · -- the character itself is read behind those before it
    subst h_eq
    have h_concat : (before ++ [c]).filter (·.toNat ≤ c.toNat)
        = before.filter (·.toNat ≤ c.toNat) ++ [c] := by
      rw [filter_concat, if_pos (decide_eq_true (Nat.le_refl _))]
    have h_old : readSoFar c.toNat before (c :: after)
        = before.filter (·.toNat ≤ c.toNat) ++ after.filter (·.toNat < c.toNat) := by
      rw [readSoFar, List.filter_cons_of_neg (by simp)]
    have h_new : readSoFar c.toNat (before ++ [c]) after
        = before.filter (·.toNat ≤ c.toNat) ++ c :: after.filter (·.toNat < c.toNat) := by
      rw [readSoFar, h_concat, List.append_assoc, List.singleton_append]
    rw [h_old] at h
    rw [if_neg (Nat.lt_irrefl _), if_pos rfl, h_new, h_concat, List.length_append,
      List.length_singleton]
    exact h.write h_other
  · -- a larger character is neither read nor counted yet
    have h_concat : (before ++ [c]).filter (·.toNat ≤ m) = before.filter (·.toNat ≤ m) := by
      rw [filter_concat, if_neg (by simp; omega), List.append_nil]
    have h_read : readSoFar m (before ++ [c]) after = readSoFar m before (c :: after) := by
      rw [readSoFar, readSoFar, h_concat, List.filter_cons_of_neg (by simp; omega)]
    rw [if_neg (by omega), if_neg (by omega), h_read, h_concat]
    exact h

/-- Passing over the rest of the label for one code point. -/
theorem Follows.fold (h_other : 0x80 ≤ m)
    (h : Follows basic m (before.filter (·.toNat ≤ m)).length (readSoFar m before after) e) :
    Follows basic m ((before ++ after).filter (·.toNat ≤ m)).length
      ((before ++ after).filter (·.toNat ≤ m)) (after.foldl (Encoder.pass m) e) := by
  induction after generalizing before e with
  | nil =>
    rw [readSoFar, List.filter_nil, List.append_nil] at h
    rw [List.append_nil]
    exact h
  | cons c after ih =>
    have h_rest := ih (h.pass h_other)
    rw [List.append_assoc, List.singleton_append] at h_rest
    exact h_rest

-- ============================================================================
-- Whole labels
-- ============================================================================

/-- Between two neighbours of the sorted list of code points the label has none. -/
theorem Follows.run {n : Nat} {others : List Nat} (h_sorted : others.Pairwise (· < ·))
    (h_from : ∀ m ∈ others, n ≤ m) (h_other : 0x80 ≤ n)
    (h_all : ∀ c ∈ label, n ≤ c.toNat → c.toNat ∈ others)
    (h : Follows basic n 0 (label.filter (·.toNat < n)) e) :
    ∃ last, Follows basic last 0 label (Encoder.run label n others e) := by
  induction others generalizing n e with
  | nil =>
    refine ⟨n, ?_⟩
    have h_label : label.filter (·.toNat < n) = label := List.filter_eq_self.mpr fun c h_mem => by
      have h_lt : c.toNat < n := Nat.not_le.mp fun h_le => absurd (h_all c h_mem h_le)
        List.not_mem_nil
      exact decide_eq_true h_lt
    rw [h_label] at h
    exact h
  | cons m rest ih =>
    obtain ⟨h_least, h_sorted⟩ := List.pairwise_cons.mp h_sorted
    have h_le : n ≤ m := h_from m List.mem_cons_self
    have h_gap : label.filter (·.toNat < n) = readSoFar m [] label := by
      refine List.filter_congr fun c h_mem => decide_eq_decide.mpr ⟨fun h_lt => by omega, ?_⟩
      refine fun h_lt => Nat.not_le.mp fun h_from => ?_
      rcases List.mem_cons.mp (h_all c h_mem h_from) with h_eq | h_mem
      · omega
      · exact absurd (h_least _ h_mem) (by omega)
    have h_next : label.filter (·.toNat ≤ m) = label.filter (·.toNat < m + 1) :=
      List.filter_congr fun c _ => decide_eq_decide.mpr Nat.lt_succ_iff.symm
    have h_size := h.size
    have h_start : Follows basic m (([] : List Char).filter (·.toNat ≤ m)).length
        (readSoFar m [] label) { e with delta := e.delta + (m - n) * (e.written + 1) } := by
      rw [h_gap] at h h_size
      have h_skipped : n * (e.written + 1) + (m - n) * (e.written + 1) = m * (e.written + 1) := by
        rw [← Nat.add_mul, Nat.add_sub_cancel' h_le]
      refine h.count ?_
      rw [← h_size, List.filter_nil, List.length_nil]
      omega
    have h_end := Follows.fold (Nat.le_trans h_other h_le) h_start
    rw [List.nil_append, h_next] at h_end
    rw [Encoder.run]
    refine ih h_sorted (fun k h_k => h_least k h_k) (Nat.le_trans h_other (by omega))
      (fun c h_mem h_from => ?_) (h_end.count ?_)
    · rcases List.mem_cons.mp (h_all c h_mem (by omega)) with h_eq | h_mem
      · omega
      · exact h_mem
    · rw [Nat.add_mul, Nat.one_mul]
      omega

theorem mem_insertOnce {x y : Nat} {ys : List Nat} : y ∈ insertOnce x ys ↔ y = x ∨ y ∈ ys := by
  induction ys with
  | nil => simp [insertOnce]
  | cons z zs ih =>
    rw [insertOnce]
    split
    · exact List.mem_cons
    · split
      · rename_i h_eq
        simp [h_eq]
      · rw [List.mem_cons, ih, List.mem_cons]
        exact or_left_comm

theorem pairwise_insertOnce {x : Nat} {ys : List Nat} (h : ys.Pairwise (· < ·)) :
    (insertOnce x ys).Pairwise (· < ·) := by
  induction ys with
  | nil => exact List.pairwise_singleton _ x
  | cons z zs ih =>
    obtain ⟨h_least, h_rest⟩ := List.pairwise_cons.mp h
    rw [insertOnce]
    split
    · rename_i h_lt
      refine List.pairwise_cons.mpr ⟨fun y h_mem => ?_, h⟩
      rcases List.mem_cons.mp h_mem with rfl | h_mem
      · exact h_lt
      · exact Nat.lt_trans h_lt (h_least y h_mem)
    · split
      · exact h
      · refine List.pairwise_cons.mpr ⟨fun y h_mem => ?_, ih h_rest⟩
        rcases mem_insertOnce.mp h_mem with rfl | h_mem
        · omega
        · exact h_least y h_mem

/-- Everything behind the last hyphen is decoded onto what stands before it. -/
theorem decode?_start {written : List Char} (h_basic : ∀ c ∈ basic, c.toNat < 0x80)
    (h_written : ∀ c ∈ written, c.toNat < 0x80 ∧ c ≠ '-') :
    decode? ((if basic.isEmpty then [] else basic ++ ['-']) ++ written)
      = decodeFrom? 0x80 0 72 basic written := by
  have h_hyphen : ∀ c ∈ written.reverse, (c != '-') = true := fun c h_mem =>
    bne_iff_ne.mpr (h_written c (List.mem_reverse.mp h_mem)).2
  cases basic with
  | nil =>
    have h_ascii : written.all (·.toNat < 0x80) = true :=
      List.all_eq_true.mpr fun c h_mem => decide_eq_true (h_written c h_mem).1
    rw [List.isEmpty_nil, if_pos rfl, List.nil_append, decode?]
    rw [if_pos h_ascii, List.takeWhile_eq_self_iff.mpr h_hyphen, List.reverse_reverse, if_pos rfl]
  | cons first rest =>
    have h_ascii : (first :: rest ++ ['-'] ++ written).all (·.toNat < 0x80) = true := by
      rw [List.all_append, List.all_append, Bool.and_eq_true, Bool.and_eq_true]
      exact ⟨⟨List.all_eq_true.mpr fun c h_mem => decide_eq_true (h_basic c h_mem), rfl⟩,
        List.all_eq_true.mpr fun c h_mem => decide_eq_true (h_written c h_mem).1⟩
    have h_tail : (first :: rest ++ ['-'] ++ written).reverse.takeWhile (· != '-')
        = written.reverse := by
      rw [List.append_assoc, List.reverse_append, List.reverse_append, List.append_assoc]
      exact Text.takeWhile_append_of_stop h_hyphen fun c h_c => by
        obtain rfl := Option.some.inj h_c
        rfl
    have h_length : (first :: rest ++ ['-'] ++ written).length
        = (first :: rest).length + (written.length + 1) := by
      rw [List.length_append, List.length_append, List.length_singleton]
      omega
    rw [List.isEmpty_cons, if_neg Bool.false_ne_true, decode?]
    rw [if_pos h_ascii, h_tail, List.reverse_reverse, h_length, if_neg (by omega),
      show (first :: rest).length + (written.length + 1) - written.length - 1
        = (first :: rest).length by omega, List.append_assoc, List.take_left]

theorem mem_foldr_insertOnce {x : Nat} {xs : List Nat} :
    x ∈ xs.foldr insertOnce [] ↔ x ∈ xs := by
  induction xs with
  | nil => rfl
  | cons y ys ih => rw [List.foldr_cons, mem_insertOnce, ih, List.mem_cons]

theorem pairwise_foldr_insertOnce (xs : List Nat) : (xs.foldr insertOnce []).Pairwise (· < ·) := by
  induction xs with
  | nil => exact .nil
  | cons y ys ih => exact pairwise_insertOnce ih

/-- Behind its characters in ASCII an encoded label has digits from which it is read. -/
theorem exists_digits_of_encode (label : List Char) : ∃ written,
    encode label = (if (label.filter (·.toNat < 0x80)).isEmpty then []
      else label.filter (·.toNat < 0x80) ++ ['-']) ++ written
    ∧ (∀ c ∈ written, ∃ d < 36, c = digitChar d)
    ∧ decodeFrom? 0x80 0 72 (label.filter (·.toNat < 0x80)) written = some label := by
  have h_start : Follows (label.filter (·.toNat < 0x80)) 0x80 0 (label.filter (·.toNat < 0x80))
      { delta := 0, bias := 72, written := (label.filter (·.toNat < 0x80)).length
        basic := (label.filter (·.toNat < 0x80)).length
        text := if (label.filter (·.toNat < 0x80)).isEmpty then []
          else label.filter (·.toNat < 0x80) ++ ['-'] } :=
    ⟨Nat.le_refl _, rfl, [], 0x80, 0, (List.append_nil _).symm,
      fun c h_mem => absurd h_mem List.not_mem_nil, fun rest => rfl, by simp, rfl⟩
  obtain ⟨last, h_end⟩ := h_start.run (pairwise_foldr_insertOnce _)
    (fun m h_mem => of_decide_eq_true (List.mem_filter.mp (mem_foldr_insertOnce.mp h_mem)).2)
    (Nat.le_refl _)
    (fun c h_mem h_from => mem_foldr_insertOnce.mpr
      (List.mem_filter.mpr ⟨List.mem_map_of_mem h_mem, decide_eq_true h_from⟩))
  obtain ⟨written, n, i, h_text, h_digits, h_reads, -, -⟩ := h_end.reads
  refine ⟨written, h_text, h_digits, ?_⟩
  have h_read := h_reads []
  rw [List.append_nil] at h_read
  rw [h_read, decodeFrom?]
  rfl

/-- An encoded label has characters of the label, hyphens and digits. -/
theorem mem_encode {c : Char} (h : c ∈ encode label) :
    (c ∈ label ∧ c.toNat < 0x80) ∨ c = '-' ∨ ∃ d < 36, c = digitChar d := by
  obtain ⟨written, h_text, h_digits, -⟩ := exists_digits_of_encode label
  rw [h_text] at h
  rcases List.mem_append.mp h with h | h
  · split at h
    · exact absurd h List.not_mem_nil
    · rcases List.mem_append.mp h with h | h
      · obtain ⟨h_mem, h_ascii⟩ := List.mem_filter.mp h
        exact .inl ⟨h_mem, of_decide_eq_true h_ascii⟩
      · exact .inr (.inl (List.mem_singleton.mp h))
  · exact .inr (.inr (h_digits c h))

/-- A label is decoded from its encoded form. -/
theorem decode?_encode (label : List Char) : decode? (encode label) = some label := by
  have h_digit : ∀ d < 36, (digitChar d).toNat < 0x80 ∧ digitChar d ≠ '-' := by decide
  obtain ⟨written, h_text, h_digits, h_read⟩ := exists_digits_of_encode label
  rw [h_text, decode?_start (fun c h_mem => of_decide_eq_true (List.mem_filter.mp h_mem).2)
    fun c h_mem => ?_, h_read]
  obtain ⟨d, h_d, rfl⟩ := h_digits c h_mem
  exact h_digit d h_d

end Punycode
end PageObjects
