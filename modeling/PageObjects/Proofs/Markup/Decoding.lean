/-
  PageObjects.Proofs.Markup.Decoding

  Character references in every spelling. A reference is a body between an ampersand
  and a semicolon. `Means` says which character a body means: one with the number that
  it writes, in either notation, or one of the six that have a name. A body that is
  well formed and means nothing is `Meaningless`.

    * `referent?_eq_some_iff`: what is read of a body is what it means.
    * `decodeChars_append_amp`: an ampersand starts afresh, so that no text before a
      reference changes how it is read.
    * `decodeChars_reference`, `decodeChars_of_meaningless`: one reference, with any text
      behind it.
    * `decodeReferences_once`: whole texts.
-/

import PageObjects.Markup.Reference
import PageObjects.Proofs.Text.Numeral

namespace PageObjects
namespace Markup

-- ============================================================================
-- What references mean
-- ============================================================================

/-- The body of a reference means a character: it writes its number, in decimal or hexadecimal
    digits, or it is its name. -/
inductive Means : List Char → Char → Prop
  | decimal {digits : List Char} {c : Char} :
      Text.Writes 10 digits c.toNat → Means ('#' :: digits) c
  | hexadecimal {mark : Char} {digits : List Char} {c : Char} : mark = 'x' ∨ mark = 'X' →
      Text.Writes 16 digits c.toNat → Means ('#' :: mark :: digits) c
  | amp : Means "amp".toList '&'
  | lt : Means "lt".toList '<'
  | gt : Means "gt".toList '>'
  | quot : Means "quot".toList '"'
  | apos : Means "apos".toList '\''
  | nbsp : Means "nbsp".toList '\xa0'

/-- A number that is the code point of no character: a surrogate, or one above the last. -/
def IsNoCodePoint (n : Nat) : Prop :=
  0xd800 ≤ n ∧ n ≤ 0xdfff ∨ 0x10ffff < n

/-- A body of a reference that means no character: its number is no code point, or its name is
    unknown. -/
inductive Meaningless : List Char → Prop
  | decimal {digits : List Char} {n : Nat} : Text.Writes 10 digits n → IsNoCodePoint n →
      Meaningless ('#' :: digits)
  | hexadecimal {mark : Char} {digits : List Char} {n : Nat} : mark = 'x' ∨ mark = 'X' →
      Text.Writes 16 digits n → IsNoCodePoint n → Meaningless ('#' :: mark :: digits)
  | name {name : List Char} : name ≠ [] → (∀ c ∈ name, c.isAlpha = true) →
      (∀ c, ¬Means name c) → Meaningless name

/-- A hexadecimal digit, in either case. -/
def isHexDigit (c : Char) : Bool :=
  c.isDigit || "abcdefABCDEF".toList.contains c

/-- The bodies of references: a run of digits behind the mark of its notation, or a run of
    letters. -/
inductive IsBody : List Char → Prop
  | decimal {digits : List Char} : digits ≠ [] → (∀ c ∈ digits, c.isDigit = true) →
      IsBody ('#' :: digits)
  | hexadecimal {mark : Char} {digits : List Char} : mark = 'x' ∨ mark = 'X' → digits ≠ [] →
      (∀ c ∈ digits, isHexDigit c = true) → IsBody ('#' :: mark :: digits)
  | name {name : List Char} : name ≠ [] → (∀ c ∈ name, c.isAlpha = true) → IsBody name

/-- A text is written with references: each character as it is, unless that is an ampersand, or by
    a reference that means it. -/
inductive Spells : (text written : List Char) → Prop
  | nil : Spells [] []
  | plain {c : Char} {text written : List Char} : c ≠ '&' → Spells text written →
      Spells (c :: text) (c :: written)
  | reference {c : Char} {body text written : List Char} : Means body c → Spells text written →
      Spells (c :: text) ('&' :: (body ++ ';' :: written))

variable {body name rest behind : List Char} {c : Char} {n : Nat}

-- ============================================================================
-- Bodies
-- ============================================================================

theorem charOfCodePoint?_eq_some_iff : charOfCodePoint? n = some c ↔ n = c.toNat := by
  rw [charOfCodePoint?]
  constructor
  · intro h
    split at h
    · rename_i h_valid
      obtain rfl := Option.some.inj h
      have h_char : Char.ofNat n = Char.ofNatAux n h_valid := dif_pos h_valid
      rw [h_char]
      rfl
    · cases h
  · rintro rfl
    have h_valid : c.toNat.isValidChar := c.valid
    rw [if_pos h_valid, Char.ofNat_toNat]

theorem charOfCodePoint?_eq_none_iff : charOfCodePoint? n = none ↔ IsNoCodePoint n := by
  rw [charOfCodePoint?, IsNoCodePoint]
  split
  · simp only [reduceCtorEq, false_iff]
    omega
  · simp only [true_iff]
    omega

theorem digitsNat?_ten_eq_some_iff {digits : List Char} :
    Text.digitsNat? 10 digits = some n ↔ Text.Writes 10 digits n :=
  ⟨Text.writes_of_digitsNat? (by decide),
    Text.digitsNat?_of_writes (by decide) Text.readsDigits_ten⟩

theorem digitsNat?_sixteen_eq_some_iff {digits : List Char} :
    Text.digitsNat? 16 digits = some n ↔ Text.Writes 16 digits n :=
  ⟨Text.writes_of_digitsNat? (by decide),
    Text.digitsNat?_of_writes (by decide) Text.readsDigits_sixteen⟩

theorem referent?_hexadecimal {mark : Char} (h : mark = 'x' ∨ mark = 'X') (digits : List Char) :
    referent? ('#' :: mark :: digits) = (Text.digitsNat? 16 digits).bind charOfCodePoint? := by
  rcases h with rfl | rfl <;> rfl

theorem referent?_decimal {digits : List Char} (h : Text.Writes 10 digits n) :
    referent? ('#' :: digits) = charOfCodePoint? n := by
  have h_read := digitsNat?_ten_eq_some_iff.mpr h
  rw [referent?]
  · rw [h_read, Option.bind_some]
  · rintro rest rfl
    cases h_read
  · rintro rest rfl
    cases h_read

/-- What is read of the body of a reference is what it means. -/
theorem referent?_eq_some_iff : referent? body = some c ↔ Means body c := by
  constructor
  · intro h
    unfold referent? at h
    split at h
    · obtain ⟨n, h_read, h_c⟩ := Option.bind_eq_some_iff.mp h
      obtain rfl := charOfCodePoint?_eq_some_iff.mp h_c
      exact .hexadecimal (.inl rfl) (digitsNat?_sixteen_eq_some_iff.mp h_read)
    · obtain ⟨n, h_read, h_c⟩ := Option.bind_eq_some_iff.mp h
      obtain rfl := charOfCodePoint?_eq_some_iff.mp h_c
      exact .hexadecimal (.inr rfl) (digitsNat?_sixteen_eq_some_iff.mp h_read)
    · obtain ⟨n, h_read, h_c⟩ := Option.bind_eq_some_iff.mp h
      obtain rfl := charOfCodePoint?_eq_some_iff.mp h_c
      exact .decimal (digitsNat?_ten_eq_some_iff.mp h_read)
    · obtain ⟨before, behind, h_table, -⟩ := List.lookup_eq_some_iff.mp h
      have h_mem : (body, c) ∈ namedReferences := by
        rw [h_table]
        exact List.mem_append_right _ List.mem_cons_self
      simp only [namedReferences, List.mem_cons, Prod.mk.injEq, List.not_mem_nil, or_false] at h_mem
      rcases h_mem with ⟨rfl, rfl⟩ | ⟨rfl, rfl⟩ | ⟨rfl, rfl⟩ | ⟨rfl, rfl⟩ | ⟨rfl, rfl⟩ | ⟨rfl, rfl⟩
      · exact .amp
      · exact .lt
      · exact .gt
      · exact .quot
      · exact .apos
      · exact .nbsp
  · intro h
    cases h with
    | decimal h_digits =>
      rw [referent?_decimal h_digits, charOfCodePoint?_eq_some_iff]
    | hexadecimal h_mark h_digits =>
      rw [referent?_hexadecimal h_mark, digitsNat?_sixteen_eq_some_iff.mpr h_digits,
        Option.bind_some, charOfCodePoint?_eq_some_iff]
    | _ => rfl

/-! ## The characters of bodies -/

theorem isReferenceChar_of_writes {base : Nat} {digits : List Char}
    (h : Text.digitsNat? base digits = some n) : ∀ x ∈ digits, isReferenceChar x = true := by
  intro x h_x
  obtain ⟨d, h_d⟩ := Text.exists_digit?_of_mem h h_x
  rw [isReferenceChar, (Text.shape_of_digit? h_d).1, Bool.true_or]

theorem isReferenceChar_decimal {digits : List Char} (h : Text.Writes 10 digits n) :
    ∀ x ∈ '#' :: digits, isReferenceChar x = true :=
  List.forall_mem_cons.mpr
    ⟨rfl, isReferenceChar_of_writes (digitsNat?_ten_eq_some_iff.mpr h)⟩

theorem isReferenceChar_hexadecimal {mark : Char} {digits : List Char}
    (h_mark : mark = 'x' ∨ mark = 'X') (h : Text.Writes 16 digits n) :
    ∀ x ∈ '#' :: mark :: digits, isReferenceChar x = true := by
  refine List.forall_mem_cons.mpr ⟨rfl, List.forall_mem_cons.mpr ⟨?_,
    isReferenceChar_of_writes (digitsNat?_sixteen_eq_some_iff.mpr h)⟩⟩
  rcases h_mark with rfl | rfl <;> rfl

theorem Means.chars (h : Means body c) : ∀ x ∈ body, isReferenceChar x = true := by
  cases h with
  | decimal h_digits => exact isReferenceChar_decimal h_digits
  | hexadecimal h_mark h_digits => exact isReferenceChar_hexadecimal h_mark h_digits
  | _ => exact List.all_eq_true.mp rfl

theorem Meaningless.chars (h : Meaningless body) : ∀ x ∈ body, isReferenceChar x = true := by
  cases h with
  | decimal h_digits => exact isReferenceChar_decimal h_digits
  | hexadecimal h_mark h_digits => exact isReferenceChar_hexadecimal h_mark h_digits
  | name _ h_letters =>
    intro x h_x
    rw [isReferenceChar, Char.isAlphanum, h_letters x h_x, Bool.true_or, Bool.true_or]

theorem Meaningless.referent?_eq_none (h : Meaningless body) : referent? body = none := by
  cases h with
  | decimal h_digits h_none =>
    rw [referent?_decimal h_digits, charOfCodePoint?_eq_none_iff]
    exact h_none
  | hexadecimal h_mark h_digits h_none =>
    rw [referent?_hexadecimal h_mark, digitsNat?_sixteen_eq_some_iff.mpr h_digits,
      Option.bind_some, charOfCodePoint?_eq_none_iff]
    exact h_none
  | name _ _ h_unknown =>
    rw [Option.eq_none_iff_forall_ne_some]
    exact fun c h_c => h_unknown c (referent?_eq_some_iff.mp h_c)

theorem isSome_digit? {base : Nat} (h_base : 10 ≤ base) (h : c.isDigit = true) :
    (Text.digit? base c).isSome = true := by
  have h_range : 48 ≤ c.toNat ∧ c.toNat ≤ 57 := by
    simp only [Char.isDigit, Bool.and_eq_true, decide_eq_true_eq, ge_iff_le,
      UInt32.le_iff_toNat_le] at h
    exact h
  rw [Text.digit?]
  grind

theorem isSome_digit?_sixteen (h : isHexDigit c = true) : (Text.digit? 16 c).isSome = true := by
  rw [isHexDigit, Bool.or_eq_true] at h
  rcases h with h_decimal | h_letter
  · exact isSome_digit? (by decide) h_decimal
  · have h_all : ("abcdefABCDEF".toList.all fun x => (Text.digit? 16 x).isSome) = true := by decide
    exact List.all_eq_true.mp h_all c (List.contains_iff_mem.mp h_letter)

/-- The body of every reference means a character or is meaningless. -/
theorem IsBody.means_or_meaningless (h : IsBody body) : (∃ c, Means body c) ∨ Meaningless body := by
  cases h with
  | decimal h_ne h_digits =>
    obtain ⟨n, h_n⟩ := Text.exists_digitsNat? h_ne fun x h_x =>
      isSome_digit? (Nat.le_refl 10) (h_digits x h_x)
    have h_writes := digitsNat?_ten_eq_some_iff.mp h_n
    cases h_c : charOfCodePoint? n with
    | none => exact .inr (.decimal h_writes (charOfCodePoint?_eq_none_iff.mp h_c))
    | some c =>
      obtain rfl := charOfCodePoint?_eq_some_iff.mp h_c
      exact .inl ⟨c, .decimal h_writes⟩
  | hexadecimal h_mark h_ne h_digits =>
    obtain ⟨n, h_n⟩ := Text.exists_digitsNat? h_ne fun x h_x =>
      isSome_digit?_sixteen (h_digits x h_x)
    have h_writes := digitsNat?_sixteen_eq_some_iff.mp h_n
    cases h_c : charOfCodePoint? n with
    | none => exact .inr (.hexadecimal h_mark h_writes (charOfCodePoint?_eq_none_iff.mp h_c))
    | some c =>
      obtain rfl := charOfCodePoint?_eq_some_iff.mp h_c
      exact .inl ⟨c, .hexadecimal h_mark h_writes⟩
  | name h_ne h_letters =>
    by_cases h_known : ∃ c, Means body c
    · exact .inl h_known
    · exact .inr (.name h_ne h_letters (not_exists.mp h_known))

-- ============================================================================
-- One reference
-- ============================================================================

theorem decodeChars_plain (h : c ≠ '&') (rest : List Char) :
    decodeChars (c :: rest) = c :: decodeChars rest := by
  rw [decodeChars, if_neg h]

theorem decodeChars_some (h : reference? rest = some (c, behind)) :
    decodeChars ('&' :: rest) = c :: decodeChars behind := by
  rw [decodeChars, if_pos rfl]
  split
  · rename_i h_some
    rw [h] at h_some
    obtain ⟨rfl, rfl⟩ := Prod.mk.inj (Option.some.inj h_some)
    rfl
  · rename_i h_none
    rw [h] at h_none
    cases h_none

theorem decodeChars_none (h : reference? rest = none) :
    decodeChars ('&' :: rest) = '&' :: decodeChars rest := by
  rw [decodeChars, if_pos rfl]
  split
  · rename_i h_some
    rw [h] at h_some
    cases h_some
  · rfl

/-- A text without ampersands is decoded to itself, whatever is written behind it. -/
theorem decodeChars_append_of_not_mem {plain : List Char} (h : '&' ∉ plain) (behind : List Char) :
    decodeChars (plain ++ behind) = plain ++ decodeChars behind := by
  induction plain with
  | nil => rfl
  | cons c rest ih =>
    rw [List.mem_cons, not_or] at h
    obtain ⟨h_ne, h_rest⟩ := h
    rw [List.cons_append, decodeChars_plain (Ne.symm h_ne), ih h_rest, List.cons_append]

/-- A reference goes up to the first character that no body has, if that is a semicolon. -/
theorem reference?_eq (s : List Char) : reference? s
    = if (s.dropWhile isReferenceChar).head? = some ';' then
        (referent? (s.takeWhile isReferenceChar)).map fun c =>
          (c, (s.dropWhile isReferenceChar).tail)
      else none := by
  rw [reference?]
  split
  · rename_i rest h_drop
    rw [h_drop]
    rfl
  · rename_i h_other
    rw [if_neg]
    intro h_head
    obtain ⟨rest, h_drop⟩ := List.head?_eq_some_iff.mp h_head
    exact h_other rest h_drop

theorem reference?_body (h : ∀ x ∈ body, isReferenceChar x = true) (behind : List Char) :
    reference? (body ++ ';' :: behind) = (referent? body).map fun c => (c, behind) := by
  have h_stop : ∀ x ∈ (';' :: behind).head?, isReferenceChar x = false := by
    intro x h_x
    obtain rfl := Option.some.inj h_x
    rfl
  rw [reference?_eq, Text.dropWhile_append_of_stop h h_stop, Text.takeWhile_append_of_stop h h_stop]
  rfl

/-- A reference that means a character is decoded to it, whatever is written behind it. -/
theorem decodeChars_reference (h : Means body c) (behind : List Char) :
    decodeChars ('&' :: (body ++ ';' :: behind)) = c :: decodeChars behind := by
  apply decodeChars_some
  rw [reference?_body h.chars, referent?_eq_some_iff.mpr h, Option.map_some]

/-- A meaningless reference is left as it is, whatever is written behind it. -/
theorem decodeChars_of_meaningless (h : Meaningless body) (behind : List Char) :
    decodeChars ('&' :: (body ++ ';' :: behind)) = '&' :: (body ++ ';' :: decodeChars behind) := by
  have h_none : reference? (body ++ ';' :: behind) = none := by
    rw [reference?_body h.chars, h.referent?_eq_none, Option.map_none]
  have h_plain : '&' ∉ body := by
    intro h_mem
    have h_amp := h.chars '&' h_mem
    cases h_amp
  rw [decodeChars_none h_none, decodeChars_append_of_not_mem h_plain, decodeChars_plain (by decide)]

-- ============================================================================
-- References among other text
-- ============================================================================

/-- No reference goes on over an ampersand. -/
theorem reference?_append_amp (rest behind : List Char) :
    reference? (rest ++ '&' :: behind)
      = (reference? rest).map fun found => (found.1, found.2 ++ '&' :: behind) := by
  have h_stop : ∀ x ∈ ('&' :: behind).head?, isReferenceChar x = false := by
    intro x h_x
    obtain rfl := Option.some.inj h_x
    rfl
  rw [reference?_eq, reference?_eq, Text.dropWhile_append_of_head rest h_stop,
    Text.takeWhile_append_of_head rest h_stop]
  cases rest.dropWhile isReferenceChar with
  | nil => rfl
  | cons x tail =>
    have h_head : (x :: tail ++ '&' :: behind).head? = (x :: tail).head? := rfl
    by_cases h_x : (x :: tail).head? = some ';'
    · rw [if_pos (h_head.trans h_x), if_pos h_x, Option.map_map]
      rfl
    · rw [if_neg (h_head ▸ h_x), if_neg h_x]
      rfl

/-- What is written before an ampersand is decoded for itself. -/
theorem decodeChars_append_amp (before behind : List Char) :
    decodeChars (before ++ '&' :: behind) = decodeChars before ++ decodeChars ('&' :: behind) := by
  induction before using decodeChars.induct with
  | case1 => rw [decodeChars, List.nil_append, List.nil_append]
  | case2 rest c tail h_some ih =>
    have h_append : reference? (rest ++ '&' :: behind) = some (c, tail ++ '&' :: behind) := by
      rw [reference?_append_amp, h_some, Option.map_some]
    rw [List.cons_append, decodeChars_some h_append, decodeChars_some h_some, ih, List.cons_append]
  | case3 rest h_none ih =>
    have h_append : reference? (rest ++ '&' :: behind) = none := by
      rw [reference?_append_amp, h_none, Option.map_none]
    rw [List.cons_append, decodeChars_none h_append, decodeChars_none h_none, ih, List.cons_append]
  | case4 c rest h_ne ih =>
    rw [List.cons_append, decodeChars_plain h_ne, decodeChars_plain h_ne, ih, List.cons_append]

/-- A text that is written with references is decoded to the text. -/
theorem Spells.decodeChars_eq {text written : List Char} (h : Spells text written) :
    decodeChars written = text := by
  induction h with
  | nil => rw [decodeChars]
  | plain h_ne _ ih => rw [decodeChars_plain h_ne, ih]
  | reference h_means _ ih => rw [decodeChars_reference h_means, ih]

theorem means_of_reference? (h : reference? rest = some (c, behind)) :
    ∃ body, Means body c ∧ rest = body ++ ';' :: behind := by
  rw [reference?_eq] at h
  split at h
  · rename_i h_head
    obtain ⟨tail, h_drop⟩ := List.head?_eq_some_iff.mp h_head
    obtain ⟨d, h_body, h_eq⟩ := Option.map_eq_some_iff.mp h
    rw [h_drop] at h_eq
    obtain ⟨rfl, rfl⟩ := Prod.mk.inj h_eq
    refine ⟨_, referent?_eq_some_iff.mp h_body, ?_⟩
    rw [List.tail_cons, ← h_drop, List.takeWhile_append_dropWhile]
  · cases h

/-- A text in which no reference means a character is decoded to itself. -/
theorem decodeChars_eq_self {s : List Char} (h : ∀ before body behind c, Means body c →
    s ≠ before ++ '&' :: (body ++ ';' :: behind)) : decodeChars s = s := by
  have h_tail : ∀ {first : Char} {rest : List Char}, (∀ before body behind c, Means body c →
      first :: rest ≠ before ++ '&' :: (body ++ ';' :: behind)) →
      ∀ before body behind c, Means body c → rest ≠ before ++ '&' :: (body ++ ';' :: behind) :=
    fun h_all before body behind c h_means h_rest =>
      h_all (_ :: before) body behind c h_means (congrArg (_ :: ·) h_rest)
  induction s using decodeChars.induct with
  | case1 => rw [decodeChars]
  | case2 rest c behind h_some _ =>
    obtain ⟨body, h_means, rfl⟩ := means_of_reference? h_some
    exact absurd rfl (h [] body behind c h_means)
  | case3 rest h_none ih => rw [decodeChars_none h_none, ih (h_tail h)]
  | case4 c rest h_ne ih => rw [decodeChars_plain h_ne, ih (h_tail h)]

-- ============================================================================
-- Whole texts
-- ============================================================================

/-- A reference, as it is written. -/
def referenceTo (body : List Char) : String :=
  "&" ++ String.ofList body ++ ";"

theorem toList_referenceTo (body : List Char) (behind : String) :
    (referenceTo body ++ behind).toList = '&' :: (body ++ ';' :: behind.toList) := by
  simp [referenceTo]

theorem decodeReferences_append (before : String) (body : List Char) (behind : String) :
    decodeReferences (before ++ (referenceTo body ++ behind))
      = decodeReferences before ++ decodeReferences (referenceTo body ++ behind) := by
  rw [decodeReferences, String.toList_append, toList_referenceTo, decodeChars_append_amp,
    String.ofList_append, ← toList_referenceTo, ← decodeReferences, ← decodeReferences]

/-- Character references are decoded once, in every spelling: a text that is written with them is
    decoded to the text, and within any text a reference is replaced by the character that it means
    and a meaningless one is left as it is, while what surrounds it is decoded for itself. Nothing
    else is decoded. -/
theorem decodeReferences_once :
    (∀ text written : String, Spells text.toList written.toList → decodeReferences written = text)
      ∧ (∀ (before behind : String) (body : List Char) (c : Char), Means body c →
        decodeReferences (before ++ (referenceTo body ++ behind))
          = decodeReferences before ++ (String.singleton c ++ decodeReferences behind))
      ∧ (∀ (before behind : String) (body : List Char), Meaningless body →
        decodeReferences (before ++ (referenceTo body ++ behind))
          = decodeReferences before ++ (referenceTo body ++ decodeReferences behind))
      ∧ (∀ body, IsBody body → (∃ c, Means body c) ∨ Meaningless body)
      ∧ ∀ text : String, (∀ before body behind c, Means body c →
        text ≠ before ++ (referenceTo body ++ behind)) → decodeReferences text = text := by
  refine ⟨fun text written h => ?_, fun before behind body c h => ?_,
    fun before behind body h => ?_, fun body => IsBody.means_or_meaningless, fun text h => ?_⟩
  · rw [decodeReferences, h.decodeChars_eq, String.ofList_toList]
  · rw [decodeReferences_append]
    apply congrArg (decodeReferences before ++ ·)
    apply String.toList_injective
    rw [decodeReferences, toList_referenceTo, decodeChars_reference h]
    simp [decodeReferences]
  · rw [decodeReferences_append]
    apply congrArg (decodeReferences before ++ ·)
    apply String.toList_injective
    rw [decodeReferences, toList_referenceTo, decodeChars_of_meaningless h, toList_referenceTo]
    simp [decodeReferences]
  · rw [decodeReferences, decodeChars_eq_self, String.ofList_toList]
    intro before body behind c h_means h_text
    apply h (String.ofList before) body (String.ofList behind) c h_means
    apply String.toList_injective
    rw [String.toList_append, toList_referenceTo, String.toList_ofList, String.toList_ofList]
    exact h_text

/-- An ampersand in two spellings, each before text that would complete another reference, and two
    meaningless references between them. -/
theorem decodeReferences_once_neighbours :
    decodeReferences "&#x026;lt;&#XD800;&AMP;&#00038;#65;" = "&lt;&#XD800;&AMP;&#65;" := by
  obtain ⟨h_spelled, h_means, h_meaningless, -⟩ := decodeReferences_once
  have h_last := h_means "" "#65;" ['#', '0', '0', '0', '3', '8'] '&' (.decimal ⟨3, by decide⟩)
  have h_name := h_meaningless "" "&#00038;#65;" ['A', 'M', 'P']
    (.name (by decide) (List.all_eq_true.mp rfl) fun c h => by cases h)
  have h_surrogate := h_meaningless "lt;" "&AMP;&#00038;#65;" ['#', 'X', 'D', '8', '0', '0']
    (@Meaningless.hexadecimal _ _ 0xd800 (.inr rfl) ⟨0, by decide⟩ (.inl (by decide)))
  have h_first := h_means "" "lt;&#XD800;&AMP;&#00038;#65;" ['#', 'x', '0', '2', '6'] '&'
    (.hexadecimal (.inl rfl) ⟨1, by decide⟩)
  have h_empty := h_spelled "" "" .nil
  have h_lt := h_spelled "lt;" "lt;"
    (.plain (by decide) (.plain (by decide) (.plain (by decide) .nil)))
  have h_65 := h_spelled "#65;" "#65;"
    (.plain (by decide) (.plain (by decide) (.plain (by decide) (.plain (by decide) .nil))))
  rw [h_empty, h_65] at h_last
  rw [h_empty] at h_name
  rw [h_lt] at h_surrogate
  rw [h_empty] at h_first
  calc decodeReferences "&#x026;lt;&#XD800;&AMP;&#00038;#65;"
    _ = "&" ++ decodeReferences "lt;&#XD800;&AMP;&#00038;#65;" := h_first
    _ = "&" ++ ("lt;" ++ ("&#XD800;" ++ decodeReferences "&AMP;&#00038;#65;")) :=
      congrArg _ h_surrogate
    _ = "&" ++ ("lt;" ++ ("&#XD800;" ++ ("&AMP;" ++ decodeReferences "&#00038;#65;"))) :=
      congrArg _ (congrArg _ (congrArg _ h_name))
    _ = "&" ++ ("lt;" ++ ("&#XD800;" ++ ("&AMP;" ++ ("&" ++ "#65;")))) :=
      congrArg _ (congrArg _ (congrArg _ (congrArg _ h_last)))
    _ = "&lt;&#XD800;&AMP;&#65;" := by decide

end Markup
end PageObjects
