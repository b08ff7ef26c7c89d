/-
  PageObjects.Proofs.Json.Rereading

  The compact text of a JSON value is read back as the value: `parse?_render`. It holds
  of every value whose strings have a text and whose numbers are spelled as the grammar
  has them.

    * `number?_append`: what stands behind a number is left alone.
    * `units?_escaped`: the escapes of a text are read as its characters.
    * `items?_render`, `members?_render`: the values of a list one after the other; each
      takes two of the fuel for every character of its text.
-/

import PageObjects.Json.Printer
import PageObjects.Json.Reader
import PageObjects.Proofs.Text.Numeral

namespace PageObjects
namespace Json

/-- The members of an object whose names are texts. -/
def named (members : List (String × Json)) : List (Option String × Json) :=
  members.map fun (name, value) => (some name, value)

namespace Reader

variable {s rest : List Char}

/-- What may stand behind a value: nothing, or one of the signs that follow values. -/
inductive Ends : List Char → Prop
  | nothing : Ends []
  | comma (rest : List Char) : Ends (',' :: rest)
  | bracket (rest : List Char) : Ends (']' :: rest)
  | brace (rest : List Char) : Ends ('\x7d' :: rest)

-- ============================================================================
-- Numbers
-- ============================================================================

theorem Ends.takeWhile_isDigit (h : Ends rest) : rest.takeWhile isDigit = [] := by
  cases h <;> rfl

theorem Ends.dropWhile_isDigit (h : Ends rest) : rest.dropWhile isDigit = rest := by
  cases h <;> rfl

theorem takeWhile_isDigit_append (h : Ends rest) (s : List Char) :
    (s ++ rest).takeWhile isDigit = s.takeWhile isDigit := by
  induction s with
  | nil => exact h.takeWhile_isDigit
  | cons c s ih => rw [List.cons_append, List.takeWhile_cons, List.takeWhile_cons, ih]

theorem dropWhile_isDigit_append (h : Ends rest) (s : List Char) :
    (s ++ rest).dropWhile isDigit = s.dropWhile isDigit ++ rest := by
  induction s with
  | nil => exact h.dropWhile_isDigit
  | cons c s ih =>
    rw [List.cons_append, List.dropWhile_cons, List.dropWhile_cons, ih]
    split <;> rfl

/-- A reader that stops before what may stand behind a value. -/
def Stops (read : List Char → Option (List Char × List Char)) : Prop :=
  ∀ s rest, Ends rest →
    read (s ++ rest) = (read s).map fun (taken, behind) => (taken, behind ++ rest)

theorem stops_digits? : Stops digits? := by
  intro s rest h
  rw [digits?, digits?, takeWhile_isDigit_append h, dropWhile_isDigit_append h]
  split <;> rfl

theorem stops_whole? : Stops whole? := by
  intro s rest h
  rcases s with - | ⟨c, s⟩
  · cases h <;> rfl
  · by_cases h_zero : c = '0'
    · subst h_zero
      rcases s with - | ⟨c, s⟩
      · cases h <;> rfl
      · simp only [List.cons_append, whole?]
        split <;> rfl
    · have h_whole : ∀ t, whole? (c :: t) = digits? (c :: t) := by
        intro t
        rw [whole?]
        exact fun _ h_cons => h_zero (List.cons.inj h_cons).1
      rw [List.cons_append, h_whole, h_whole]
      exact stops_digits? (c :: s) rest h

theorem stops_fraction? : Stops fraction? := by
  intro s rest h
  rcases s with - | ⟨c, s⟩
  · cases h <;> rfl
  · by_cases h_point : c = '.'
    · subst h_point
      simp only [List.cons_append, fraction?, stops_digits? s rest h, Option.map_map,
        Function.comp_def]
    · have h_none : ∀ t, fraction? (c :: t) = some ([], c :: t) := by
        intro t
        rw [fraction?]
        exact fun _ h_cons => h_point (List.cons.inj h_cons).1
      rw [List.cons_append, h_none, h_none]
      rfl

theorem stops_exponent? : Stops exponent? := by
  intro s rest h
  rcases s with - | ⟨c, s⟩
  · cases h <;> rfl
  · by_cases h_mark : c = 'e' ∨ c = 'E'
    · rcases s with - | ⟨sign, s⟩
      · cases h <;> simp [exponent?, h_mark, digits?, isDigit]
      · simp only [List.cons_append, exponent?, if_pos h_mark]
        split
        · simp only [stops_digits? s rest h, Option.map_map, Function.comp_def]
        · rw [← List.cons_append]
          simp only [stops_digits? (sign :: s) rest h, Option.map_map, Function.comp_def]
    · simp only [List.cons_append, exponent?, if_neg h_mark, Option.map_some]

theorem stops_unsigned? : Stops unsigned? := by
  intro s rest h
  simp only [unsigned?]
  rw [stops_whole? s rest h]
  rcases whole? s with - | ⟨whole, s⟩
  · rfl
  · simp only [Option.map_some, Option.bind_eq_bind, Option.bind_some]
    rw [stops_fraction? s rest h]
    rcases fraction? s with - | ⟨fraction, s⟩
    · rfl
    · simp only [Option.map_some, Option.bind_some]
      rw [stops_exponent? s rest h]
      rcases exponent? s with - | ⟨exponent, s⟩ <;> rfl

theorem number?_of_ne {c : Char} (h : c ≠ '-') (s : List Char) :
    number? (c :: s) = unsigned? (c :: s) := by
  rw [number?]
  exact fun _ h_cons => h (List.cons.inj h_cons).1

theorem stops_number? : Stops number? := by
  intro s rest h
  rcases s with - | ⟨c, s⟩
  · cases h <;> rfl
  · by_cases h_minus : c = '-'
    · subst h_minus
      simp only [List.cons_append, number?, stops_unsigned? s rest h, Option.map_map,
        Function.comp_def]
    · rw [List.cons_append, number?_of_ne h_minus, number?_of_ne h_minus]
      exact stops_unsigned? (c :: s) rest h

/-- A number as the grammar spells it, with nothing behind. -/
def IsLiteral (s : List Char) : Prop :=
  number? s = some (s, [])

theorem number?_append (h : IsLiteral s) (h_ends : Ends rest) :
    number? (s ++ rest) = some (s, rest) := by
  rw [stops_number? s rest h_ends, h]
  rfl

theorem IsLiteral.head (h : IsLiteral s) :
    ∃ c t, s = c :: t ∧ (c = '-' ∨ isDigit c = true) := by
  rcases s with - | ⟨c, t⟩
  · cases h
  · refine ⟨c, t, rfl, ?_⟩
    by_cases h_minus : c = '-'
    · exact .inl h_minus
    · by_cases h_zero : c = '0'
      · exact .inr (by rw [h_zero]; rfl)
      · by_contra h_none
        have h_digits : digits? (c :: t) = none := by
          rw [digits?, List.takeWhile_cons_of_neg fun h_digit => h_none (.inr h_digit)]
          rfl
        have h_whole : whole? (c :: t) = none := by
          rw [whole?, h_digits]
          exact fun _ h_cons => h_zero (List.cons.inj h_cons).1
        rw [IsLiteral, number?_of_ne h_minus, unsigned?, h_whole] at h
        cases h

/-- The digits of a number do not start with zero, unless there is one digit. -/
theorem toDigits_head (n : Nat) :
    Nat.toDigits 10 n = ['0'] ∨ ∃ c t, Nat.toDigits 10 n = c :: t ∧ c ≠ '0' := by
  induction n using Nat.strongRecOn with
  | ind n ih =>
    rcases Nat.lt_or_ge n 10 with h_lt | h_ge
    · rw [Nat.toDigits_of_lt_base h_lt]
      have h_all : ∀ d < 10, [d.digitChar] = ['0'] ∨ d.digitChar ≠ '0' := by decide
      exact (h_all n h_lt).imp_right fun h_ne => ⟨_, [], rfl, h_ne⟩
    · rw [Nat.toDigits_of_base_le (by decide) h_ge]
      rcases ih (n / 10) (by omega) with h_zero | ⟨c, t, h_cons, h_ne⟩
      · exfalso
        have h_value := Nat.ofDigitChars_ten_toDigits (n := n / 10)
        rw [h_zero] at h_value
        have h_quotient : 0 = n / 10 := h_value
        omega
      · exact .inr ⟨c, t ++ [(n % 10).digitChar], by rw [h_cons, List.cons_append], h_ne⟩

theorem isLiteral_toDigits (n : Nat) : IsLiteral (Nat.toDigits 10 n) := by
  rcases toDigits_head n with h_zero | ⟨c, t, h_cons, h_ne⟩
  · rw [h_zero]
    rfl
  · have h_all : ∀ d ∈ c :: t, isDigit d = true := by
      rw [← h_cons]
      exact fun d h_mem => Nat.isDigit_of_mem_toDigits (by decide) (by decide) h_mem
    have h_minus : c ≠ '-' := by
      rintro rfl
      exact absurd (h_all '-' List.mem_cons_self) (by decide)
    have h_digits : digits? (c :: t) = some (c :: t, []) := by
      rw [digits?, List.takeWhile_eq_self_iff.mpr h_all, List.dropWhile_eq_nil_iff.mpr h_all]
      rfl
    have h_whole : whole? (c :: t) = some (c :: t, []) := by
      rw [whole?, h_digits]
      exact fun _ h_eq => h_ne (List.cons.inj h_eq).1
    rw [h_cons, IsLiteral, number?_of_ne h_minus, unsigned?, h_whole]
    simp [fraction?, exponent?]

-- ============================================================================
-- Strings
-- ============================================================================

theorem units?_short {e c : Char} (h_ne : e ≠ 'u') (h : shortEscape? e = some c) (s : List Char) :
    units? ('\\' :: e :: s) = (units? s).map fun (units, behind) => (.char c :: units, behind) := by
  rw [units?]
  · rw [h]
    rcases units? s with - | ⟨units, behind⟩ <;> rfl
  · exact fun _ _ _ _ _ h_u _ => h_ne h_u

/-- The escape with the number of a character below the blank. -/
theorem units?_control {c : Char} (h : c.toNat < 32) (s : List Char) :
    units? ('\\' :: 'u' :: '0' :: '0' :: Nat.digitChar (c.toNat / 16)
        :: Nat.digitChar (c.toNat % 16) :: s)
      = (units? s).map fun (units, behind) => (.char c :: units, behind) := by
  have h_all : ∀ n < 32,
      Text.digitsNat? 16 ['0', '0', Nat.digitChar (n / 16), Nat.digitChar (n % 16)] = some n := by
    decide
  have h_unit : StringUnit.ofNat c.toNat = .char c := by
    rw [StringUnit.ofNat, if_neg (by omega), if_neg (by omega), Char.ofNat_toNat]
  show (Text.digitsNat? 16 _).bind _ = _
  rw [h_all c.toNat h]
  simp only [Option.bind_eq_bind, Option.bind_some, h_unit]
  rcases units? s with - | ⟨units, behind⟩ <;> rfl

theorem units?_plain {c : Char} (h_quote : c ≠ '"') (h_slash : c ≠ '\\') (h : ¬ c.toNat < 32)
    (s : List Char) :
    units? (c :: s) = (units? s).map fun (units, behind) => (.char c :: units, behind) := by
  rw [units?, if_neg h]
  · rcases units? s with - | ⟨units, behind⟩ <;> rfl
  · exact fun h_c => h_quote h_c
  · exact fun _ _ _ _ _ h_c _ => h_slash h_c
  · exact fun _ _ h_c _ => h_slash h_c

/-- The escape of a character is read as the character. -/
theorem units?_escapeChar (c : Char) (s : List Char) :
    units? (escapeChar c ++ s)
      = (units? s).map fun (units, behind) => (.char c :: units, behind) := by
  -- the signs with an escape of one letter, in the order in which they are looked for
  by_cases h_quote : c = '"'
  · subst h_quote
    exact units?_short (by decide) rfl s
  by_cases h_slash : c = '\\'
  · subst h_slash
    exact units?_short (by decide) rfl s
  rw [escapeChar, if_neg h_quote, if_neg h_slash]
  by_cases h_newline : c = '\n'
  · subst h_newline
    exact units?_short (by decide) rfl s
  by_cases h_return : c = '\r'
  · subst h_return
    exact units?_short (by decide) rfl s
  by_cases h_tab : c = '\t'
  · subst h_tab
    exact units?_short (by decide) rfl s
  by_cases h_backspace : c = '\x08'
  · subst h_backspace
    exact units?_short (by decide) rfl s
  by_cases h_feed : c = '\x0c'
  · subst h_feed
    exact units?_short (by decide) rfl s
  rw [if_neg h_newline, if_neg h_return, if_neg h_tab, if_neg h_backspace, if_neg h_feed]
  by_cases h_control : c.toNat < 32
  · rw [if_pos h_control]
    exact units?_control h_control s
  · rw [if_neg h_control]
    exact units?_plain h_quote h_slash h_control s

theorem units?_escaped (text rest : List Char) :
    units? (text.flatMap escapeChar ++ '"' :: rest) = some (text.map .char, rest) := by
  induction text with
  | nil => rfl
  | cons c text ih =>
    rw [List.flatMap_cons, List.append_assoc, units?_escapeChar, ih]
    rfl

theorem textOfUnits?_map_char (text : List Char) : textOfUnits? (text.map .char) = some text := by
  induction text with
  | nil => rfl
  | cons c text ih =>
    rw [List.map_cons, textOfUnits?, ih]
    rfl

/-- A written text, behind its opening quote. -/
theorem string?_escaped (text : String) (rest : List Char) :
    string? (text.toList.flatMap escapeChar ++ '"' :: rest) = some (some text, rest) := by
  rw [string?, units?_escaped]
  simp only [Option.map_some, textOfUnits?_map_char, String.ofList_toList]

theorem toList_renderText (text : String) :
    (renderText text).toList = '"' :: (text.toList.flatMap escapeChar ++ ['"']) := by
  rw [renderText, String.toList_ofList]

-- ============================================================================
-- Values
-- ============================================================================

/-- The text of the value is read as the value, whatever stands behind it, with fuel for twice the
    characters of the text. -/
def Rereads (json : Json) : Prop :=
  ∀ fuel rest, Ends rest → 2 * json.render.toList.length ≤ fuel →
    value? (fuel + 1) (json.render.toList ++ rest) = some (json, rest)

theorem rereads_number {literal : String} (h : IsLiteral literal.toList) :
    Rereads (.number literal) := by
  intro fuel rest h_ends _
  obtain ⟨c, t, h_cons, h_head⟩ := h.head
  have h_read : number? (c :: (t ++ rest)) = some (c :: t, rest) := by
    rw [← List.cons_append, ← h_cons]
    exact number?_append h h_ends
  have h_other : ∀ sign, isDigit sign = false → sign ≠ '-' → c ≠ sign := by
    rintro sign h_sign h_ne rfl
    rcases h_head with h_minus | h_digit
    · exact h_ne h_minus
    · exact Bool.false_ne_true (h_sign.symm.trans h_digit)
  have h_gap : isGap c = false := by
    simp [isGap, h_other ' ' rfl (by decide), h_other '\n' rfl (by decide),
      h_other '\t' rfl (by decide), h_other '\r' rfl (by decide)]
  show value? (fuel + 1) (literal.toList ++ rest) = _
  rw [h_cons, List.cons_append, value?, skipGaps, List.dropWhile_cons_of_neg (by simp [h_gap])]
  simp only [h_other 'n' rfl (by decide), h_other 't' rfl (by decide), h_other 'f' rfl (by decide),
    h_other '"' rfl (by decide), h_other '[' rfl (by decide), h_other '\x7b' rfl (by decide),
    if_false, h_read, Option.map_some, ← h_cons, String.ofList_toList]

theorem rereads_ofString (text : String) : Rereads (ofString text) := by
  intro fuel rest _ _
  have h_text : (ofString text).render.toList ++ rest
      = '"' :: (text.toList.flatMap escapeChar ++ '"' :: rest) := by
    show (renderText text).toList ++ rest = _
    rw [toList_renderText, List.cons_append, List.append_assoc]
    rfl
  rw [h_text]
  show (string? _).map _ = _
  rw [string?_escaped]
  rfl

theorem value?_of_bracket {behind : List Char} (h : skipGaps s = ']' :: behind) (fuel : Nat) :
    value? fuel s = none := by
  cases fuel with
  | zero => rfl
  | succ fuel => rw [value?, h]; rfl

variable {fuel : Nat}

/-- Items that can be read do not start with the bracket that closes an empty array. -/
theorem value?_array {items : List Json} (h : items? fuel s = some (items, rest)) :
    value? (fuel + 1) ('[' :: s) = some (.array items, rest) := by
  rw [value?_bracket]
  split
  · rename_i behind h_empty
    exfalso
    cases fuel with
    | zero => cases h
    | succ fuel =>
      rw [items?, value?_of_bracket h_empty] at h
      cases h
  · rw [h]
    rfl

/-- Members that can be read do not start with the brace that closes an empty object. -/
theorem value?_object {members : List (Option String × Json)}
    (h : members? fuel s = some (members, rest)) :
    value? (fuel + 1) ('\x7b' :: s) = some (.object members, rest) := by
  rw [value?_brace]
  split
  · rename_i behind h_empty
    exfalso
    cases fuel with
    | zero => cases h
    | succ fuel =>
      rw [members?, h_empty] at h
      cases h
  · rw [h]
    rfl

theorem toList_renderItems_cons (item : Json) {items : List Json} (h : items ≠ []) :
    (renderItems (item :: items)).toList
      = item.render.toList ++ ',' :: (renderItems items).toList := by
  rw [renderItems, String.toList_append, String.toList_append, List.append_assoc]
  · rfl
  · exact h

theorem items?_render {items : List Json} (h_ne : items ≠ [])
    (h : ∀ item ∈ items, Rereads item) (rest : List Char)
    (h_fuel : 2 * (renderItems items).toList.length ≤ fuel) :
    items? (fuel + 2) ((renderItems items).toList ++ ']' :: rest) = some (items, rest) := by
  induction items generalizing fuel with
  | nil => exact absurd rfl h_ne
  | cons item items ih =>
    have h_item := h item List.mem_cons_self
    by_cases h_last : items = []
    · subst h_last
      rw [renderItems, items?, h_item fuel _ (.bracket rest) h_fuel]
      rfl
    · -- the comma leaves fuel for one more round
      rw [toList_renderItems_cons item h_last, List.length_append, List.length_cons] at h_fuel
      obtain ⟨fuel, rfl⟩ := Nat.exists_eq_add_of_le' (show 1 ≤ fuel by omega)
      rw [toList_renderItems_cons item h_last, List.append_assoc, List.cons_append, items?,
        h_item _ _ (.comma _) (by omega)]
      show (items? (fuel + 2) _).bind _ = _
      rw [ih h_last (fun other h_mem => h other (List.mem_cons_of_mem _ h_mem)) (by omega)]
      rfl

/-- The text of a member with a name. -/
theorem toList_renderMember (name : String) (value : Json) :
    (renderMember (some name, value)).toList
      = '"' :: (name.toList.flatMap escapeChar ++ '"' :: ':' :: value.render.toList) := by
  rw [renderMember, String.toList_append, String.toList_append, Option.getD_some,
    toList_renderText, List.cons_append, List.cons_append, List.append_assoc, List.append_assoc]
  rfl

theorem toList_renderMembers_cons (member : Option String × Json)
    {members : List (Option String × Json)} (h : members ≠ []) :
    (renderMembers (member :: members)).toList
      = (renderMember member).toList ++ ',' :: (renderMembers members).toList := by
  rw [renderMembers, String.toList_append, String.toList_append, List.append_assoc]
  · rfl
  · exact h

/-- A written member is read up to the sign behind its value. -/
theorem members?_renderMember {value : Json} (h : Rereads value) (name : String)
    {behind : List Char} (h_ends : Ends behind)
    (h_fuel : 2 * (renderMember (some name, value)).toList.length ≤ fuel) :
    members? (fuel + 2) ((renderMember (some name, value)).toList ++ behind)
      = match skipGaps behind with
        | ',' :: rest => (members? (fuel + 1) rest).map fun (members, behind) =>
            ((some name, value) :: members, behind)
        | '\x7d' :: behind => some ([(some name, value)], behind)
        | _ => none := by
  have h_text : (renderMember (some name, value)).toList ++ behind
      = '"' :: (name.toList.flatMap escapeChar
          ++ '"' :: (':' :: (value.render.toList ++ behind))) := by
    rw [toList_renderMember, List.cons_append, List.append_assoc]
    rfl
  have h_value : value? (fuel + 1) (value.render.toList ++ behind) = some (value, behind) := by
    refine h fuel behind h_ends ?_
    rw [toList_renderMember] at h_fuel
    simp only [List.length_cons, List.length_append] at h_fuel
    omega
  rw [h_text, members?]
  show (string? _).bind _ = _
  rw [string?_escaped]
  show (value? (fuel + 1) (value.render.toList ++ behind)).bind _ = _
  rw [h_value]
  cases h_ends with
  | nothing => rfl
  | bracket rest => rfl
  | brace rest => rfl
  | comma rest =>
    show (members? (fuel + 1) rest).bind _ = (members? (fuel + 1) rest).map _
    rcases members? (fuel + 1) rest with - | ⟨members, behind⟩ <;> rfl

theorem members?_render {members : List (String × Json)} (h_ne : members ≠ [])
    (h : ∀ member ∈ members, Rereads member.2) (rest : List Char)
    (h_fuel : 2 * (renderMembers (named members)).toList.length ≤ fuel) :
    members? (fuel + 2) ((renderMembers (named members)).toList ++ '\x7d' :: rest)
      = some (named members, rest) := by
  induction members generalizing fuel with
  | nil => exact absurd rfl h_ne
  | cons member members ih =>
    obtain ⟨name, value⟩ := member
    have h_value : Rereads value := h (name, value) List.mem_cons_self
    by_cases h_last : members = []
    · subst h_last
      exact members?_renderMember h_value name (.brace rest) h_fuel
    · have h_text : (renderMembers (named ((name, value) :: members))).toList
          = (renderMember (some name, value)).toList
            ++ ',' :: (renderMembers (named members)).toList :=
        toList_renderMembers_cons _ fun h_nil => h_last (List.map_eq_nil_iff.mp h_nil)
      rw [h_text, List.length_append, List.length_cons] at h_fuel
      obtain ⟨fuel, rfl⟩ := Nat.exists_eq_add_of_le' (show 1 ≤ fuel by omega)
      rw [h_text, List.append_assoc, List.cons_append,
        members?_renderMember h_value name (.comma _) (by omega)]
      show (members? (fuel + 2) _).map _ = _
      rw [ih h_last (fun other h_mem => h other (List.mem_cons_of_mem _ h_mem)) (by omega)]
      rfl

end Reader

open Reader

/-- A value whose compact text is in the grammar: every string has a text, and every number is
    spelled as the grammar has it. -/
inductive IsWritable : Json → Prop
  | null : IsWritable .null
  | bool (b : Bool) : IsWritable (.bool b)
  | number {literal : String} (h : IsLiteral literal.toList) : IsWritable (.number literal)
  | string (text : String) : IsWritable (ofString text)
  | array {items : List Json} (h : ∀ item ∈ items, IsWritable item) : IsWritable (.array items)
  | object {members : List (String × Json)} (h : ∀ member ∈ members, IsWritable member.2) :
      IsWritable (ofMembers members)

theorem natural?_ofNat (n : Nat) : (ofNat n).natural? = some n := by
  rw [ofNat, natural?, Nat.toString_eq_repr, Nat.toList_repr]
  exact Text.digitsNat?_toDigits (by decide) Text.readsDigits_ten n

theorem IsWritable.ofNat (n : Nat) : IsWritable (ofNat n) :=
  .number (by
    rw [Nat.toString_eq_repr, Nat.toList_repr]
    exact isLiteral_toDigits n)

theorem IsWritable.rereads {json : Json} (h : json.IsWritable) : Rereads json := by
  induction h with
  | null => exact fun _ _ _ _ => rfl
  | bool b => cases b <;> exact fun _ _ _ _ => rfl
  | number h => exact rereads_number h
  | string text => exact rereads_ofString text
  | @array items _ ih =>
    intro fuel rest _ h_fuel
    by_cases h_empty : items = []
    · subst h_empty
      rfl
    · have h_text : (render (.array items)).toList
          = '[' :: ((renderItems items).toList ++ [']']) := by
        rw [render, String.toList_append, String.toList_append, List.append_assoc]
        rfl
      rw [h_text, List.length_cons, List.length_append, List.length_singleton] at h_fuel
      obtain ⟨fuel, rfl⟩ := Nat.exists_eq_add_of_le' (show 2 ≤ fuel by omega)
      rw [h_text, List.cons_append, List.append_assoc]
      exact value?_array (items?_render h_empty ih rest (by omega))
  | @object members _ ih =>
    intro fuel rest _ h_fuel
    by_cases h_empty : members = []
    · subst h_empty
      rfl
    · have h_text : (ofMembers members).render.toList
          = '\x7b' :: ((renderMembers (named members)).toList ++ ['\x7d']) := by
        rw [ofMembers, render, String.toList_append, String.toList_append, List.append_assoc]
        rfl
      rw [h_text, List.length_cons, List.length_append, List.length_singleton] at h_fuel
      obtain ⟨fuel, rfl⟩ := Nat.exists_eq_add_of_le' (show 2 ≤ fuel by omega)
      rw [h_text, List.cons_append, List.append_assoc]
      exact value?_object (members?_render h_empty ih rest (by omega))

/-- The compact text of a value is read as the value. -/
theorem parse?_render {json : Json} (h : json.IsWritable) : parse? json.render = some json := by
  have h_read := h.rereads (2 * json.render.toList.length + 1) [] .nothing (by omega)
  rw [List.append_nil] at h_read
  rw [parse?, h_read]
  rfl

end Json
end PageObjects
