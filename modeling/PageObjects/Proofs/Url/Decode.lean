/-
  PageObjects.Proofs.Url.Decode

  What percent-encoding is decoded to. An escape stands for its byte, and a percent
  sign without two digits behind it for itself, so it matters that encoding touches
  neither: an encoded text has the percent signs and the digits of the text where they
  were, and is decoded to the same bytes.

    * `decode_escapes`: the escapes of bytes are decoded to them.
    * `Respelled.decode_eq`: a text with characters put as escapes is decoded to the
      same bytes.
    * `decode_append`: a character that is no digit keeps what stands before it apart
      from what stands behind it.
-/

import PageObjects.Proofs.Text.Utf8
import PageObjects.Proofs.Url.Encode

namespace PageObjects
namespace Percent

variable {c mark : Char} {b : Nat} {s t rest behind : List Char} {set : Char → Bool}

-- ============================================================================
-- Escapes
-- ============================================================================

theorem decode_nil : decode [] = [] := by
  rw [decode]

theorem decode_cons_of_ne (h : c ≠ '%') (rest : List Char) :
    decode (c :: rest) = Utf8.encodeChar c ++ decode rest := by
  rw [decode, if_neg h]

theorem decode_percent_of_some (h : escaped? rest = some (b, behind)) :
    decode ('%' :: rest) = b :: decode behind := by
  rw [decode, if_pos rfl]
  split
  · rename_i h_some
    obtain ⟨rfl, rfl⟩ := Prod.mk.inj (Option.some.inj (h.symm.trans h_some))
    rfl
  · rename_i h_none
    rw [h] at h_none
    cases h_none

theorem decode_percent_of_none (h : escaped? rest = none) :
    decode ('%' :: rest) = Utf8.encodeChar '%' ++ decode rest := by
  rw [decode, if_pos rfl]
  split
  · rename_i h_some
    rw [h] at h_some
    cases h_some
  · rfl

theorem digit?_hexDigit {n : Nat} (h : n < 16) : Text.digit? 16 (hexDigit n) = some n := by
  have h_all : ∀ n < 16, Text.digit? 16 (hexDigit n) = some n := by decide
  exact h_all n h

/-- An escape is decoded to its byte. -/
theorem decode_encodeByte (h : b < 0x100) (rest : List Char) :
    decode (encodeByte b ++ rest) = b :: decode rest := by
  have h_escaped : escaped? (hexDigit (b / 16) :: hexDigit (b % 16) :: rest) = some (b, rest) := by
    have h_value : b / 16 * 16 + b % 16 = b := by omega
    rw [escaped?, digit?_hexDigit (by omega), digit?_hexDigit (by omega)]
    exact congrArg (fun value => some (value, rest)) h_value
  exact decode_percent_of_some h_escaped

/-- The escapes of bytes are decoded to them. -/
theorem decode_escapes {bytes : List Nat} (h : ∀ b ∈ bytes, b < 0x100) (rest : List Char) :
    decode (bytes.flatMap encodeByte ++ rest) = bytes ++ decode rest := by
  induction bytes with
  | nil => rfl
  | cons b bytes ih =>
    rw [List.flatMap_cons, List.append_assoc, decode_encodeByte (h b List.mem_cons_self),
      ih fun other h_mem => h other (List.mem_cons_of_mem b h_mem), List.cons_append]

/-- The escapes of a character. -/
theorem decode_escapesOf (c : Char) (rest : List Char) :
    decode ((Utf8.encodeChar c).flatMap encodeByte ++ rest) = Utf8.encodeChar c ++ decode rest :=
  decode_escapes (fun _ => Utf8.lt_of_mem_encodeChar) rest

-- ============================================================================
-- Characters put as escapes
-- ============================================================================

/-- The second text is the first one with some characters put as escapes, among them neither a
    percent sign nor a digit. -/
inductive Respelled : List Char → List Char → Prop
  | nil : Respelled [] []
  | same (c : Char) {s t : List Char} (h : Respelled s t) : Respelled (c :: s) (c :: t)
  | escape {c : Char} {s t : List Char} (h_ne : c ≠ '%') (h_digit : Text.digit? 16 c = none)
      (h : Respelled s t) : Respelled (c :: s) ((Utf8.encodeChar c).flatMap encodeByte ++ t)

/-- The escapes of a character start with a percent sign, which is no digit. -/
theorem escaped?_escapesOf (c : Char) (rest : List Char) :
    escaped? ((Utf8.encodeChar c).flatMap encodeByte ++ rest) = none := by
  obtain ⟨b, bytes, h_bytes⟩ := List.exists_cons_of_ne_nil (Utf8.encodeChar_ne_nil c)
  rw [h_bytes]
  rfl

theorem escaped?_cons_escapesOf (d c : Char) (rest : List Char) :
    escaped? (d :: ((Utf8.encodeChar c).flatMap encodeByte ++ rest)) = none := by
  obtain ⟨b, bytes, h_bytes⟩ := List.exists_cons_of_ne_nil (Utf8.encodeChar_ne_nil c)
  rw [h_bytes]
  show (Text.digit? 16 d).bind (fun hi => (none : Option Nat).bind _) = none
  cases Text.digit? 16 d <;> rfl

theorem escaped?_of_not_digit (h : Text.digit? 16 c = none) (rest : List Char) :
    escaped? (c :: rest) = none := by
  cases rest with
  | nil => rfl
  | cons d rest =>
    rw [escaped?, h]
    rfl

theorem escaped?_of_not_digit_second (h : Text.digit? 16 c = none) (d : Char) (rest : List Char) :
    escaped? (d :: c :: rest) = none := by
  rw [escaped?, h]
  cases Text.digit? 16 d <;> rfl

/-- Behind a percent sign a text and its other spelling have the same byte, or none. -/
theorem Respelled.escaped?_cases (h : Respelled s t) :
    (escaped? s = none ∧ escaped? t = none) ∨
      ∃ b s' t', escaped? s = some (b, s') ∧ escaped? t = some (b, t') ∧ Respelled s' t' := by
  cases h with
  | nil => exact .inl ⟨rfl, rfl⟩
  | escape _ h_digit h => exact .inl ⟨escaped?_of_not_digit h_digit _, escaped?_escapesOf _ _⟩
  | same c h =>
    cases h with
    | nil => exact .inl ⟨rfl, rfl⟩
    | escape _ h_digit h =>
      exact .inl ⟨escaped?_of_not_digit_second h_digit c _, escaped?_cons_escapesOf c _ _⟩
    | same d h =>
      cases h_hi : Text.digit? 16 c with
      | none => exact .inl ⟨escaped?_of_not_digit h_hi _, escaped?_of_not_digit h_hi _⟩
      | some hi =>
        cases h_lo : Text.digit? 16 d with
        | none =>
          exact .inl ⟨escaped?_of_not_digit_second h_lo c _, escaped?_of_not_digit_second h_lo c _⟩
        | some lo =>
          have h_both : ∀ rest, escaped? (c :: d :: rest) = some (hi * 16 + lo, rest) := by
            intro rest
            rw [escaped?, h_hi, h_lo]
            rfl
          exact .inr ⟨hi * 16 + lo, _, _, h_both _, h_both _, h⟩

/-- Characters put as escapes make no difference to the bytes. -/
theorem Respelled.decode_eq (h : Respelled s t) : decode t = decode s := by
  induction s using decode.induct generalizing t with
  | case1 =>
    cases h
    rfl
  | case2 rest b behind h_escaped ih =>
    cases h with
    | escape h_ne => exact absurd rfl h_ne
    | same _ h =>
      rcases h.escaped?_cases with ⟨h_none, -⟩ | ⟨b', behind', t', h_some, h_some', h_behind⟩
      · rw [h_none] at h_escaped
        cases h_escaped
      · obtain ⟨rfl, rfl⟩ := Prod.mk.inj (Option.some.inj (h_escaped.symm.trans h_some))
        rw [decode_percent_of_some h_some, decode_percent_of_some h_some', ih h_behind]
  | case3 rest h_escaped ih =>
    cases h with
    | escape h_ne => exact absurd rfl h_ne
    | same _ h =>
      rcases h.escaped?_cases with ⟨h_none, h_none'⟩ | ⟨b, behind, t', h_some, -⟩
      · rw [decode_percent_of_none h_none, decode_percent_of_none h_none', ih h]
      · rw [h_some] at h_escaped
        cases h_escaped
  | case4 c rest h_ne ih =>
    cases h with
    | escape _ _ h => rw [decode_escapesOf, decode_cons_of_ne h_ne, ih h]
    | same _ h => rw [decode_cons_of_ne h_ne, decode_cons_of_ne h_ne, ih h]

-- ============================================================================
-- Texts side by side
-- ============================================================================

theorem escaped?_append (h : Text.digit? 16 mark = none) (s rest : List Char) :
    escaped? (s ++ mark :: rest)
      = (escaped? s).map fun (b, behind) => (b, behind ++ mark :: rest) := by
  rcases s with - | ⟨c, - | ⟨d, s⟩⟩
  · exact escaped?_of_not_digit h rest
  · exact escaped?_of_not_digit_second h c rest
  · rw [List.cons_append, List.cons_append, escaped?, escaped?]
    cases Text.digit? 16 c with
    | none => rfl
    | some hi => cases Text.digit? 16 d <;> rfl

/-- A character that is neither a percent sign nor a digit ends what stands before it. -/
theorem decode_append (h_ne : mark ≠ '%') (h_digit : Text.digit? 16 mark = none)
    (s rest : List Char) :
    decode (s ++ mark :: rest) = decode s ++ (Utf8.encodeChar mark ++ decode rest) := by
  induction s using decode.induct with
  | case1 => rw [List.nil_append, decode_cons_of_ne h_ne, decode_nil, List.nil_append]
  | case2 s b behind h_escaped ih =>
    have h_whole := escaped?_append h_digit s rest
    rw [h_escaped] at h_whole
    rw [List.cons_append, decode_percent_of_some h_whole, decode_percent_of_some h_escaped, ih,
      List.cons_append]
  | case3 s h_escaped ih =>
    have h_whole := escaped?_append h_digit s rest
    rw [h_escaped] at h_whole
    rw [List.cons_append, decode_percent_of_none h_whole, decode_percent_of_none h_escaped, ih,
      List.append_assoc]
  | case4 c s h_other ih =>
    rw [List.cons_append, decode_cons_of_ne h_other, decode_cons_of_ne h_other, ih,
      List.append_assoc]

end Percent
end PageObjects
