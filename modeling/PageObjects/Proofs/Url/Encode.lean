/-
  PageObjects.Proofs.Url.Encode

  What percent-encoding leaves. An encoded text has no character of the set that is
  encoded, so that encoding it again changes nothing; its characters are those of the
  text and the ones that escapes are written with.
-/

import PageObjects.Proofs.Text.Split
import PageObjects.Url.Percent

namespace PageObjects

-- ============================================================================
-- Bytes
-- ============================================================================

theorem Utf8.lt_of_mem_encodeChar {c : Char} {b : Nat} (h : b ∈ encodeChar c) : b < 0x100 := by
  have h_valid : c.toNat < 0x110000 := by
    rcases c.valid with h_low | ⟨-, h_high⟩
    · exact Nat.lt_trans h_low (by decide)
    · exact h_high
  simp only [encodeChar] at h
  split at h
  · rw [List.mem_singleton] at h
    omega
  · split at h
    · simp only [List.mem_cons, List.not_mem_nil, or_false] at h
      omega
    · split at h
      · simp only [List.mem_cons, List.not_mem_nil, or_false] at h
        omega
      · simp only [List.mem_cons, List.not_mem_nil, or_false] at h
        omega

theorem Utf8.encodeChar_ne_nil (c : Char) : encodeChar c ≠ [] := by
  simp only [encodeChar]
  split
  · exact List.cons_ne_nil _ _
  · split
    · exact List.cons_ne_nil _ _
    · split <;> exact List.cons_ne_nil _ _

namespace Percent

/-- The characters that escapes are written with. -/
def escapeChars : List Char :=
  "%0123456789ABCDEF".toList

theorem hexDigit_mem {n : Nat} (h : n < 16) : hexDigit n ∈ escapeChars := by
  have h_all : ∀ n < 16, hexDigit n ∈ escapeChars := by decide
  exact h_all n h

theorem mem_encodeByte {b : Nat} {c : Char} (h_b : b < 0x100) (h : c ∈ encodeByte b) :
    c ∈ escapeChars := by
  simp only [encodeByte, List.mem_cons, List.not_mem_nil, or_false] at h
  rcases h with rfl | rfl | rfl
  · decide
  · exact hexDigit_mem (by omega)
  · exact hexDigit_mem (by omega)

-- ============================================================================
-- Texts
-- ============================================================================

/-- Escapes are not written with characters of the set. -/
def SparesEscapes (set : Char → Bool) : Prop :=
  ∀ c ∈ escapeChars, set c = false

theorem sparesEscapes_inControls : SparesEscapes inControls :=
  Text.forall_mem_of_all (by decide)
theorem sparesEscapes_inFragment : SparesEscapes inFragment :=
  Text.forall_mem_of_all (by decide)
theorem sparesEscapes_inPath : SparesEscapes inPath :=
  Text.forall_mem_of_all (by decide)
theorem sparesEscapes_inUserinfo : SparesEscapes inUserinfo :=
  Text.forall_mem_of_all (by decide)
theorem sparesEscapes_inQuery : SparesEscapes inQuery :=
  Text.forall_mem_of_all (by decide)
theorem sparesEscapes_inSpecialQuery : SparesEscapes inSpecialQuery :=
  Text.forall_mem_of_all (by decide)

variable {set : Char → Bool} {s : List Char} {c : Char}

theorem encode_eq_self (h : ∀ c ∈ s, set c = false) : encode set s = s := by
  induction s with
  | nil => rfl
  | cons c rest ih =>
    rw [encode, List.flatMap_cons, h c List.mem_cons_self]
    exact congrArg (c :: ·) (ih fun d h_mem => h d (List.mem_cons_of_mem c h_mem))

/-- A character of an encoded text stands in the text for itself, or in an escape. -/
theorem mem_encode (h : c ∈ encode set s) : (c ∈ s ∧ set c = false) ∨ c ∈ escapeChars := by
  obtain ⟨d, h_d, h_mem⟩ := List.mem_flatMap.mp h
  by_cases h_set : set d = true
  · rw [if_pos h_set] at h_mem
    obtain ⟨b, h_b, h_byte⟩ := List.mem_flatMap.mp h_mem
    exact .inr (mem_encodeByte (Utf8.lt_of_mem_encodeChar h_b) h_byte)
  · rw [if_neg h_set] at h_mem
    obtain rfl := List.mem_singleton.mp h_mem
    exact .inl ⟨h_d, Bool.eq_false_iff.mpr h_set⟩

theorem not_set_of_mem_encode (h_set : SparesEscapes set) (h : c ∈ encode set s) :
    set c = false := by
  rcases mem_encode h with ⟨-, h_c⟩ | h_c
  · exact h_c
  · exact h_set c h_c

/-- Encoding an encoded text changes nothing. -/
theorem encode_encode (h_set : SparesEscapes set) (s : List Char) :
    encode set (encode set s) = encode set s :=
  encode_eq_self fun _ h => not_set_of_mem_encode h_set h

/-- What is neither a control character nor a space is visible. -/
theorem visible_of_not_inControls (h : inControls c = false) (h_space : c ≠ ' ') :
    0x20 < c.toNat := by
  rw [inControls, Bool.or_eq_false_iff, decide_eq_false_iff_not] at h
  have h_number : c.toNat ≠ 0x20 := by
    intro h_eq
    refine h_space ?_
    rw [← Char.ofNat_toNat c, h_eq]
  omega

theorem encode_ne_nil (h : s ≠ []) : encode set s ≠ [] := by
  cases s with
  | nil => exact absurd rfl h
  | cons c rest =>
    rw [encode, List.flatMap_cons]
    refine fun h_nil => ?_
    have h_first := (List.append_eq_nil_iff.mp h_nil).1
    split at h_first
    · obtain ⟨b, h_b⟩ := List.exists_mem_of_ne_nil _ (Utf8.encodeChar_ne_nil c)
      exact absurd (List.flatMap_eq_nil_iff.mp h_first b h_b) (List.cons_ne_nil _ _)
    · exact absurd h_first (List.cons_ne_nil _ _)

theorem encode_append (a b : List Char) : encode set (a ++ b) = encode set a ++ encode set b :=
  List.flatMap_append

/-- A character that is not encoded keeps its place between the texts around it. -/
theorem encode_append_cons (h : set c = false) (a b : List Char) :
    encode set (a ++ c :: b) = encode set a ++ c :: encode set b := by
  have h_keep : encode set (c :: b) = c :: encode set b := by
    rw [encode, List.flatMap_cons, if_neg (Bool.eq_false_iff.mp h)]
    rfl
  rw [encode_append, h_keep]

theorem not_mem_encode (h_escape : c ∉ escapeChars) (h : c ∉ s) : c ∉ encode set s := by
  intro h_mem
  rcases mem_encode h_mem with ⟨h_c, -⟩ | h_c
  · exact h h_c
  · exact h_escape h_c

/-- An encoded text starts with no other character than the text, escapes apart. -/
theorem head?_encode_ne {mark : Char} (h_mark : mark ≠ '%') (h : s.head? ≠ some mark) :
    (encode set s).head? ≠ some mark := by
  cases s with
  | nil => exact h
  | cons c rest =>
    intro h_first
    rw [encode, List.flatMap_cons] at h_first
    split at h_first
    · obtain ⟨b, others, h_bytes⟩ := List.exists_cons_of_ne_nil (Utf8.encodeChar_ne_nil c)
      rw [h_bytes] at h_first
      exact h_mark (Option.some.inj h_first).symm
    · exact h h_first

end Percent
end PageObjects
