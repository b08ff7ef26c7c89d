/-
  PageObjects.Proofs.Url.Ip

  Numeric hosts read back. The text of an address of eight pieces is read as the same
  pieces, and the text of an address of four bytes as one with the same text.

    * `parseV6?_sound`: eight pieces of sixteen bits each are read.
    * `parseV6?_inner`: the text between the brackets is read as the pieces.
    * `exists_parseV4?_renderV4`: reading and writing the text of four bytes changes nothing.
-/

import PageObjects.Proofs.Text.Numeral
import PageObjects.Proofs.Text.Split
import PageObjects.Url.Ip

namespace PageObjects
namespace Ip

open Text

-- ============================================================================
-- Addresses of eight pieces
-- ============================================================================

/-- Eight pieces of sixteen bits each. -/
structure Sound (pieces : List Nat) : Prop where
  length_eq : pieces.length = 8
  lt : ∀ n ∈ pieces, n < 0x10000

theorem piece?_lt {s : List Char} {n : Nat} (h : piece? s = some n) : n < 0x10000 := by
  rw [piece?] at h
  split at h
  · rename_i h_le
    exact Nat.lt_of_lt_of_le (digitsNat?_lt h) (Nat.pow_le_pow_right (by decide) h_le)
  · cases h

theorem byte?_lt {s : List Char} {n : Nat} (h : byte? s = some n) : n < 0x100 := by
  rw [byte?] at h
  split at h
  · exact of_decide_eq_true (Option.filter_eq_some_iff.mp h).2
  · cases h

theorem dottedPieces?_lt {s : List Char} {pieces : List Nat} (h : dottedPieces? s = some pieces) :
    ∀ n ∈ pieces, n < 0x10000 := by
  rw [dottedPieces?] at h
  split at h
  · rename_i a b c d h_bytes
    have h_lt : ∀ n ∈ [a, b, c, d], n < 0x100 := fun n h_mem => by
      obtain ⟨part, -, h_part⟩ := exists_of_mem_mapM h_bytes h_mem
      exact byte?_lt h_part
    have h_a := h_lt a (by simp)
    have h_b := h_lt b (by simp)
    have h_c := h_lt c (by simp)
    have h_d := h_lt d (by simp)
    obtain rfl := Option.some.inj h
    intro n h_mem
    simp only [List.mem_cons, List.not_mem_nil, or_false] at h_mem
    omega
  · cases h

theorem pieces?_lt {all : List (List Char)} {pieces : List Nat} (h : pieces? all = some pieces) :
    ∀ n ∈ pieces, n < 0x10000 := by
  induction all generalizing pieces with
  | nil =>
    obtain rfl : [] = pieces := Option.some.inj h
    exact fun n h_mem => absurd h_mem List.not_mem_nil
  | cons first rest ih =>
    cases rest with
    | nil =>
      rw [pieces?] at h
      split at h
      · exact dottedPieces?_lt h
      · obtain ⟨n, h_n, rfl⟩ := Option.map_eq_some_iff.mp h
        exact fun m h_mem => List.mem_singleton.mp h_mem ▸ piece?_lt h_n
    | cons second others =>
      rw [pieces?] at h
      · obtain ⟨n, h_n, h⟩ := Option.bind_eq_some_iff.mp h
        obtain ⟨ns, h_ns, h⟩ := Option.bind_eq_some_iff.mp h
        obtain rfl := Option.some.inj h
        intro m h_mem
        rcases List.mem_cons.mp h_mem with rfl | h_mem
        · exact piece?_lt h_n
        · exact ih h_ns m h_mem
      · exact fun h_nil => nomatch h_nil

theorem sidePieces?_lt {s : List Char} {pieces : List Nat} (h : sidePieces? s = some pieces) :
    ∀ n ∈ pieces, n < 0x10000 := by
  rw [sidePieces?] at h
  split at h
  · obtain rfl := Option.some.inj h
    exact fun n h_mem => absurd h_mem List.not_mem_nil
  · exact pieces?_lt h

theorem parseV6?_sound {s : List Char} {pieces : List Nat} (h : parseV6? s = some pieces) :
    Sound pieces := by
  rw [parseV6?] at h
  split at h
  · obtain ⟨all, h_all, h⟩ := Option.bind_eq_some_iff.mp h
    split at h
    · rename_i h_length
      obtain rfl := Option.some.inj h
      exact ⟨h_length, pieces?_lt h_all⟩
    · cases h
  · dsimp only at h
    split at h
    · cases h
    · obtain ⟨before, h_before, h⟩ := Option.bind_eq_some_iff.mp h
      obtain ⟨behind, h_behind, h⟩ := Option.bind_eq_some_iff.mp h
      split at h
      · rename_i h_length
        obtain rfl := Option.some.inj h
        refine ⟨by simp only [List.length_append, List.length_replicate]; omega, ?_⟩
        intro n h_mem
        rcases List.mem_append.mp h_mem with h_mem | h_mem
        · rcases List.mem_append.mp h_mem with h_mem | h_mem
          · exact sidePieces?_lt h_before n h_mem
          · rw [List.eq_of_mem_replicate h_mem]
            decide
        · exact sidePieces?_lt h_behind n h_mem
      · cases h

/-- The text of some pieces between colons. -/
def joined (pieces : List Nat) : List Char :=
  [':'].intercalate (pieces.map (Nat.toDigits 16))

theorem mem_hexDigits {n : Nat} {c : Char} (h : c ∈ Nat.toDigits 16 n) :
    c ∈ "0123456789abcdef".toList := by
  obtain ⟨d, h_d, rfl⟩ := exists_of_mem_toDigits (by decide) h
  have h_all : ∀ d < 16, d.digitChar ∈ "0123456789abcdef".toList := by decide
  exact h_all d h_d

theorem colon_not_mem_hexDigits (n : Nat) : ':' ∉ Nat.toDigits 16 n :=
  fun h => absurd (mem_hexDigits h) (by decide)

theorem piece?_toDigits {n : Nat} (h : n < 0x10000) : piece? (Nat.toDigits 16 n) = some n := by
  have h_length : (Nat.toDigits 16 n).length ≤ 4 :=
    (Nat.length_toDigits_le_iff (by decide) (by decide)).mpr h
  rw [piece?, if_pos h_length, digitsNat?_toDigits (by decide) readsDigits_sixteen]

theorem pieces?_map_toDigits {pieces : List Nat} (h : ∀ n ∈ pieces, n < 0x10000) :
    pieces? (pieces.map (Nat.toDigits 16)) = some pieces := by
  induction pieces with
  | nil => rfl
  | cons n rest ih =>
    have h_n := piece?_toDigits (h n List.mem_cons_self)
    cases rest with
    | nil =>
      have h_dot : (Nat.toDigits 16 n).contains '.' = false := by
        rw [Bool.eq_false_iff, ne_eq, List.contains_iff_mem]
        exact fun h_mem => absurd (mem_hexDigits h_mem) (by decide)
      rw [List.map_singleton, pieces?, h_dot, if_neg Bool.false_ne_true, h_n]
      rfl
    | cons second others =>
      rw [List.map_cons, List.map_cons, pieces?, h_n,
        ← List.map_cons, ih fun m h_mem => h m (List.mem_cons_of_mem n h_mem)]
      · rfl
      · exact fun h_nil => nomatch h_nil

theorem mem_joined {pieces : List Nat} {c : Char} (h : c ∈ joined pieces) :
    c ∈ ":0123456789abcdef".toList := by
  rcases mem_of_mem_intercalate h with rfl | ⟨piece, h_mem, h_c⟩
  · decide
  · obtain ⟨n, -, rfl⟩ := List.mem_map.mp h_mem
    exact List.mem_cons_of_mem ':' (mem_hexDigits h_c)

theorem joined_cons_cons (m n : Nat) (rest : List Nat) :
    joined (m :: n :: rest) = Nat.toDigits 16 m ++ ':' :: joined (n :: rest) := by
  rw [joined, List.map_cons, List.map_cons, List.intercalate_cons_cons, ← List.map_cons,
    List.append_assoc]
  rfl

theorem joined_singleton (n : Nat) : joined [n] = Nat.toDigits 16 n :=
  List.intercalate_singleton

theorem joined_ne_nil {pieces : List Nat} (h : pieces ≠ []) : joined pieces ≠ [] := by
  cases pieces with
  | nil => exact absurd rfl h
  | cons n rest =>
    cases rest with
    | nil =>
      rw [joined_singleton]
      exact Nat.toDigits_ne_nil
    | cons m others =>
      rw [joined_cons_cons]
      exact List.append_ne_nil_of_left_ne_nil Nat.toDigits_ne_nil _

theorem sidePieces?_joined {pieces : List Nat} (h : ∀ n ∈ pieces, n < 0x10000) :
    sidePieces? (joined pieces) = some pieces := by
  by_cases h_nil : pieces = []
  · rw [h_nil]
    rfl
  · have h_parts : parts ':' (joined pieces) = pieces.map (Nat.toDigits 16) := by
      refine parts_intercalate (fun piece h_mem => ?_) (by simpa using h_nil)
      obtain ⟨n, -, rfl⟩ := List.mem_map.mp h_mem
      exact colon_not_mem_hexDigits n
    rw [sidePieces?, if_neg (by simpa using joined_ne_nil h_nil), h_parts, pieces?_map_toDigits h]

-- ============================================================================
-- The gap
-- ============================================================================

theorem splitGap?_of_not_mem {s : List Char} (h : ':' ∉ s) : splitGap? s = none := by
  induction s with
  | nil => rfl
  | cons c rest ih =>
    have h_ne : c ≠ ':' := fun h_eq => h (h_eq ▸ List.mem_cons_self)
    rw [splitGap?, ih fun h_mem => h (List.mem_cons_of_mem c h_mem)]
    · rfl
    · exact fun _ h_eq _ => h_ne h_eq

/-- A colon that no other one follows is no gap. -/
theorem splitGap?_append {a b : List Char} (h : ':' ∉ a) (h_single : b.head? ≠ some ':') :
    splitGap? (a ++ ':' :: b) = (splitGap? b).map fun sides => (a ++ ':' :: sides.1, sides.2) := by
  induction a with
  | nil =>
    rw [List.nil_append, splitGap?]
    · rfl
    · exact fun _ _ h_eq => h_single (h_eq ▸ rfl)
  | cons c rest ih =>
    have h_ne : c ≠ ':' := fun h_eq => h (h_eq ▸ List.mem_cons_self)
    rw [List.cons_append, splitGap?, ih fun h_mem => h (List.mem_cons_of_mem c h_mem),
      Option.map_map]
    · rfl
    · exact fun _ h_eq _ => h_ne h_eq

theorem splitGap?_gap {a : List Char} (h : ':' ∉ a) (b : List Char) :
    splitGap? (a ++ ':' :: ':' :: b) = some (a, b) := by
  induction a with
  | nil => rfl
  | cons c rest ih =>
    have h_ne : c ≠ ':' := fun h_eq => h (h_eq ▸ List.mem_cons_self)
    rw [List.cons_append, splitGap?, ih fun h_mem => h (List.mem_cons_of_mem c h_mem)]
    · rfl
    · exact fun _ h_eq _ => h_ne h_eq

theorem head?_hexDigits_append (n : Nat) (s : List Char) :
    (Nat.toDigits 16 n ++ s).head? ≠ some ':' := by
  cases h_digits : Nat.toDigits 16 n with
  | nil => exact absurd h_digits Nat.toDigits_ne_nil
  | cons c rest =>
    intro h_colon
    have h_mem : ':' ∈ Nat.toDigits 16 n := by
      rw [h_digits, ← Option.some.inj h_colon]
      exact List.mem_cons_self
    exact colon_not_mem_hexDigits n h_mem

theorem head?_joined_append (n : Nat) (rest : List Nat) (s : List Char) :
    (joined (n :: rest) ++ s).head? ≠ some ':' := by
  cases rest with
  | nil =>
    rw [joined_singleton]
    exact head?_hexDigits_append n s
  | cons m others =>
    rw [joined_cons_cons, List.append_assoc]
    exact head?_hexDigits_append n _

theorem splitGap?_joined (pieces : List Nat) : splitGap? (joined pieces) = none := by
  induction pieces with
  | nil => rfl
  | cons n rest ih =>
    cases rest with
    | nil =>
      rw [joined_singleton]
      exact splitGap?_of_not_mem (colon_not_mem_hexDigits n)
    | cons m others =>
      have h_head := head?_joined_append m others []
      rw [List.append_nil] at h_head
      rw [joined_cons_cons, splitGap?_append (colon_not_mem_hexDigits n) h_head, ih]
      rfl

theorem splitGap?_joined_gap (pieces : List Nat) (s : List Char) :
    splitGap? (joined pieces ++ ':' :: ':' :: s) = some (joined pieces, s) := by
  induction pieces with
  | nil => rfl
  | cons n rest ih =>
    cases rest with
    | nil =>
      rw [joined_singleton]
      exact splitGap?_gap (colon_not_mem_hexDigits n) s
    | cons m others =>
      rw [joined_cons_cons, List.append_assoc, List.cons_append,
        splitGap?_append (colon_not_mem_hexDigits n) (head?_joined_append m others _), ih]
      rfl

theorem takeWhile_zeros (pieces : List Nat) :
    pieces.takeWhile (· == 0) = List.replicate (zeros pieces) 0 := by
  refine List.eq_replicate_of_mem fun n h_mem => ?_
  have h_zero : (n == 0) = true := List.mem_takeWhile_imp (p := (· == 0)) h_mem
  exact beq_iff_eq.mp h_zero

/-- The run that is left out is a run of zeros at the place that is given for it. -/
theorem longestZeros_spec (start : Nat) (pieces : List Nat)
    (h : (longestZeros start pieces).2 ≠ 0) : ∃ before behind,
      pieces = before ++ (List.replicate (longestZeros start pieces).2 0 ++ behind)
        ∧ (longestZeros start pieces).1 = start + before.length := by
  induction pieces generalizing start with
  | nil => exact absurd rfl h
  | cons n rest ih =>
    simp only [longestZeros] at h ⊢
    split
    · refine ⟨[], (n :: rest).dropWhile (· == 0), ?_, rfl⟩
      rw [← takeWhile_zeros, List.takeWhile_append_dropWhile]
      rfl
    · rename_i h_more
      rw [if_neg h_more] at h
      obtain ⟨before, behind, h_rest, h_place⟩ := ih (start + 1) h
      refine ⟨n :: before, behind, congrArg (n :: ·) h_rest, ?_⟩
      rw [h_place, List.length_cons]
      omega

/-- The text of an address of eight pieces without its brackets. -/
def inner (pieces : List Nat) : List Char :=
  if (longestZeros 0 pieces).2 < 2 then joined pieces
  else joined (pieces.take (longestZeros 0 pieces).1)
    ++ ':' :: ':' :: joined (pieces.drop ((longestZeros 0 pieces).1 + (longestZeros 0 pieces).2))

theorem mem_inner {pieces : List Nat} {c : Char} (h : c ∈ inner pieces) :
    c ∈ ":0123456789abcdef".toList := by
  rw [inner] at h
  split at h
  · exact mem_joined h
  · rcases List.mem_append.mp h with h | h
    · exact mem_joined h
    · rcases List.mem_cons.mp h with rfl | h
      · decide
      · rcases List.mem_cons.mp h with rfl | h
        · decide
        · exact mem_joined h

theorem toList_intercalate_renderPiece (pieces : List Nat) :
    (":".intercalate (pieces.map renderPiece)).toList = joined pieces := by
  rw [String.toList_intercalate, List.map_map, joined]
  refine congrArg _ (List.map_congr_left fun n _ => ?_)
  exact String.toList_ofList

theorem toList_renderV6 (pieces : List Nat) :
    (renderV6 pieces).toList = '[' :: (inner pieces ++ [']']) := by
  simp only [renderV6, inner]
  split
  · rw [String.toList_append, String.toList_append, toList_intercalate_renderPiece]
    rfl
  · simp only [String.toList_append, toList_intercalate_renderPiece, List.append_assoc]
    rfl

/-- The text between the brackets is read as the pieces. -/
theorem parseV6?_inner {pieces : List Nat} (h : Sound pieces) :
    parseV6? (inner pieces) = some pieces := by
  rw [inner]
  split
  · have h_ne : pieces ≠ [] := fun h_nil => by
      have h_length := h.length_eq
      rw [h_nil] at h_length
      cases h_length
    have h_side := sidePieces?_joined h.lt
    rw [sidePieces?, if_neg (by simpa using joined_ne_nil h_ne)] at h_side
    rw [parseV6?, splitGap?_joined, h_side]
    show (if pieces.length = 8 then some pieces else none) = some pieces
    rw [if_pos h.length_eq]
  · rename_i h_size
    obtain ⟨before, behind, h_pieces, h_place⟩ := longestZeros_spec 0 pieces (by omega)
    generalize (longestZeros 0 pieces).1 = place at h_place ⊢
    generalize (longestZeros 0 pieces).2 = size at h_size h_pieces ⊢
    rw [Nat.zero_add] at h_place
    have h_take : pieces.take place = before := by
      rw [h_pieces, h_place, List.take_left']
      rfl
    have h_drop : pieces.drop (place + size) = behind := by
      rw [h_pieces, h_place, ← List.append_assoc]
      exact List.drop_left' (by simp)
    have h_length := h.length_eq
    rw [h_pieces] at h_length
    simp only [List.length_append, List.length_replicate] at h_length
    have h_before : ∀ n ∈ before, n < 0x10000 := fun n h_mem =>
      h.lt n (h_pieces ▸ List.mem_append_left _ h_mem)
    have h_behind : ∀ n ∈ behind, n < 0x10000 := fun n h_mem =>
      h.lt n (h_pieces ▸ List.mem_append_right _ (List.mem_append_right _ h_mem))
    have h_dot : (joined before).contains '.' = false := by
      rw [Bool.eq_false_iff, ne_eq, List.contains_iff_mem]
      exact fun h_mem => absurd (mem_joined h_mem) (by decide)
    have h_gap : 8 - (before.length + behind.length) = size := by omega
    rw [h_take, h_drop, parseV6?, splitGap?_joined_gap]
    dsimp only
    rw [h_dot, if_neg Bool.false_ne_true, sidePieces?_joined h_before, sidePieces?_joined h_behind]
    show (if before.length + behind.length < 8 then
      some (before ++ List.replicate (8 - (before.length + behind.length)) 0 ++ behind)
      else none) = some pieces
    rw [if_pos (by omega), h_gap, h_pieces, List.append_assoc]

-- ============================================================================
-- Addresses of four bytes
-- ============================================================================

/-- The bytes of an address, the most significant first. -/
def bytes (address : Nat) : List Nat :=
  [24, 16, 8, 0].map fun shift => (address >>> shift) % 256

theorem toList_renderV4 (address : Nat) :
    (renderV4 address).toList = ['.'].intercalate ((bytes address).map (Nat.toDigits 10)) := by
  rw [renderV4, String.toList_intercalate, List.map_map, bytes, List.map_map]
  refine congrArg ['.'].intercalate (List.map_congr_left fun shift _ => ?_)
  exact Nat.toList_repr

theorem number?_toDigits {n : Nat} (h : n < 256) : number? (Nat.toDigits 10 n) = some n := by
  have h_all : ∀ n < 256, number? (Nat.toDigits 10 n) = some n := by decide +kernel
  exact h_all n h

theorem dot_not_mem_decimal (n : Nat) : '.' ∉ Nat.toDigits 10 n := by
  intro h
  have h_digit := Nat.isDigit_of_mem_toDigits (by decide) (by decide) h
  exact absurd h_digit (by decide)

theorem mem_renderV4 {address : Nat} {c : Char} (h : c ∈ (renderV4 address).toList) :
    c ∈ ".0123456789".toList := by
  rw [toList_renderV4] at h
  rcases mem_of_mem_intercalate h with rfl | ⟨piece, h_mem, h_c⟩
  · decide
  · obtain ⟨n, -, rfl⟩ := List.mem_map.mp h_mem
    obtain ⟨d, h_d, rfl⟩ := exists_of_mem_toDigits (by decide) h_c
    have h_all : ∀ d < 10, d.digitChar ∈ ".0123456789".toList := by decide
    exact h_all d h_d

theorem renderV4_ne_empty (address : Nat) : renderV4 address ≠ "" := by
  intro h
  have h_nil := toList_renderV4 address
  rw [h, bytes, List.map_cons, List.map_cons, List.map_cons, List.map_cons,
    List.intercalate_cons_cons] at h_nil
  simp at h_nil

theorem hostParts_renderV4 (address : Nat) :
    hostParts (renderV4 address).toList = (bytes address).map (Nat.toDigits 10) := by
  have h_parts : parts '.' (renderV4 address).toList = (bytes address).map (Nat.toDigits 10) := by
    rw [toList_renderV4]
    refine parts_intercalate (fun piece h_mem => ?_) (List.cons_ne_nil _ _)
    obtain ⟨n, -, rfl⟩ := List.mem_map.mp h_mem
    exact dot_not_mem_decimal n
  simp only [hostParts, h_parts]
  refine if_neg fun h_last => ?_
  exact Nat.toDigits_ne_nil (Option.some.inj h_last.2)

/-- Four bytes are read as the address that they make up. -/
theorem parseV4?_renderV4 (address : Nat) :
    ∃ other, parseV4? (renderV4 address).toList = some other ∧ bytes other = bytes address := by
  have h_numbers : (hostParts (renderV4 address).toList).mapM number? = some (bytes address) := by
    rw [hostParts_renderV4, List.mapM_map]
    have h_bytes := mapM_of_forall (f := number? ∘ Nat.toDigits 10) (g := id) (l := bytes address)
      fun n h_mem => by
        obtain ⟨shift, -, rfl⟩ := List.mem_map.mp h_mem
        exact number?_toDigits (Nat.mod_lt _ (by decide))
    rw [List.map_id] at h_bytes
    exact h_bytes
  generalize h_a : (address >>> 24) % 256 = a
  generalize h_b : (address >>> 16) % 256 = b
  generalize h_c : (address >>> 8) % 256 = c
  generalize h_d : (address >>> 0) % 256 = d
  have h_list : bytes address = [a, b, c, d] := by
    rw [← h_a, ← h_b, ← h_c, ← h_d]
    rfl
  have h_lt : a < 256 ∧ b < 256 ∧ c < 256 ∧ d < 256 := by omega
  rw [h_list] at h_numbers ⊢
  refine ⟨d + (a <<< 24) + (b <<< 16) + (c <<< 8), ?_, ?_⟩
  · have h_last : ¬wordSize (32 - 8 * 3) ≤ d := by
      show ¬256 ≤ d
      omega
    have h_leading : ([a, b, c].any (255 < ·)) = false := by
      simp only [List.any_cons, List.any_nil, Bool.or_false, Bool.or_eq_false_iff,
        decide_eq_false_iff_not]
      omega
    rw [parseV4?, h_numbers]
    show (if 3 < 3 then none else if wordSize (32 - 8 * 3) ≤ d then none
      else if [a, b, c].any (255 < ·) then none else _) = _
    rw [if_neg (by decide), if_neg h_last, h_leading, if_neg Bool.false_ne_true]
    rfl
  · simp only [bytes, List.map_cons, List.map_nil, Nat.shiftLeft_eq, Nat.shiftRight_eq_div_pow,
      List.cons.injEq, and_true]
    omega

/-- The text of four bytes is read as an address with that text. -/
theorem exists_parseV4?_renderV4 (address : Nat) :
    ∃ other, parseV4? (renderV4 address).toList = some other
      ∧ renderV4 other = renderV4 address := by
  obtain ⟨other, h_other, h_bytes⟩ := parseV4?_renderV4 address
  refine ⟨other, h_other, ?_⟩
  rw [← String.toList_inj, toList_renderV4, toList_renderV4, h_bytes]

end Ip
end PageObjects
