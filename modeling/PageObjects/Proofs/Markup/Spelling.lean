/-
  PageObjects.Proofs.Markup.Spelling

  Start tags in all their spellings. An attribute may be written with its value in
  quotes of either kind, without quotes, or without a value, and blanks may stand around
  the equals sign. The reader goes over attributes twice, first for the end of the tag
  and then for the names and values, and both times it parts them in the same way. So
  an element has the attributes that are written, the first of each name.

    * `Denotes`: the texts of an attribute as it is written.
    * `assignment_append`, `exists_denotes`: an attribute is read from its texts, and from
      no others.
    * `scanned_taken`: the second time the attributes are those of the first time.
    * `distinct_eq`: which attributes an element has.
    * `requireElement_startTag`: a start tag in any spelling.
-/

import PageObjects.Markup.Document
import PageObjects.Proofs.Markup.Writing

namespace PageObjects
namespace Markup
namespace Token

variable {a : Written} {c quote : Char} {s text rest name value before behind : List Char}

-- ============================================================================
-- Blanks and names
-- ============================================================================

/-- A run of blanks, perhaps an empty one. -/
def Blanks (s : List Char) : Prop :=
  ∀ c ∈ s, Text.isBlank c = true

/-- A name that an attribute may have, in letters of either case. -/
structure IsName (name : List Char) : Prop where
  ne_nil : name ≠ []
  chars : ∀ c ∈ name, isNameChar c = true

theorem isNameChar_eq_false (h : Text.isBlank c = true) : isNameChar c = false := by
  rw [isNameChar, h]
  rfl

theorem isBlank_eq_false (h : isNameChar c = true) : Text.isBlank c = false := by
  rw [Bool.eq_false_iff]
  intro h_blank
  rw [isNameChar_eq_false h_blank] at h
  cases h

theorem isBlank_eq_false_of_isValueChar (h : isValueChar c = true) : Text.isBlank c = false := by
  rw [Bool.eq_false_iff]
  intro h_blank
  rw [isValueChar, h_blank] at h
  cases h

/-- No blank is a part of the name of a tag. -/
theorem isTagChar_eq_false (h : Text.isBlank c = true) : isTagChar c = false := by
  rw [Bool.eq_false_iff]
  intro h_tag
  have h_ascii : c.toNat < 0x80 := by
    rw [isTagChar, Bool.or_eq_true, Bool.or_eq_true, Bool.or_eq_true, beq_iff_eq, beq_iff_eq,
      beq_iff_eq] at h_tag
    rcases h_tag with ((h_alphanum | rfl) | rfl) | rfl
    · exact Text.ascii_of_isAlphanum h_alphanum
    · decide
    · decide
    · decide
  have h_blank : Text.isBlank c = false :=
    Text.of_ascii (motive := fun c => isTagChar c = true → Text.isBlank c = false) (by decide)
      h_ascii h_tag
  rw [h] at h_blank
  cases h_blank

theorem IsName.head (h : IsName name) (rest : List Char) :
    ∀ c ∈ (name ++ rest).head?, isNameChar c = true := by
  obtain ⟨first, others, rfl⟩ := List.exists_cons_of_ne_nil h.ne_nil
  intro c h_c
  obtain rfl := Option.some.inj h_c
  exact h.chars _ List.mem_cons_self

/-- Blanks end where something else starts. -/
theorem Blanks.dropWhile_append (h : Blanks before)
    (h_rest : ∀ c ∈ rest.head?, Text.isBlank c = false) :
    (before ++ rest).dropWhile Text.isBlank = rest :=
  Text.dropWhile_append_of_stop h h_rest

-- ============================================================================
-- Attributes
-- ============================================================================

/-- The texts of an attribute as it is written: its name alone, or with a value in quotes or one
    without quotes. -/
inductive Denotes : Written → List Char → Prop
  | bare {name : List Char} : Denotes (name, none) name
  | quoted {quote : Char} {name before behind value : List Char}
      (h_quote : quote = '"' ∨ quote = '\'') (h_before : Blanks before) (h_behind : Blanks behind)
      (h : quote ∉ value) :
      Denotes (name, some value)
        (name ++ (before ++ '=' :: (behind ++ quote :: (value ++ [quote]))))
  | unquoted {name before behind value : List Char} (h_before : Blanks before)
      (h_behind : Blanks behind) (h_ne : value ≠ []) (h : ∀ c ∈ value, isValueChar c = true) :
      Denotes (name, some value) (name ++ (before ++ '=' :: (behind ++ value)))

/-- A text that may stand behind any attribute: it is not taken for more of it, nor for a value. -/
structure Delimits (rest : List Char) : Prop where
  first : ∀ c ∈ rest.head?, Text.isBlank c = true ∨ c = '>'
  unassigned : ∀ c ∈ (rest.dropWhile Text.isBlank).head?, c ≠ '='

theorem delimits_nil : Delimits [] :=
  ⟨fun _ h_c => (nomatch h_c), fun _ h_c => (nomatch h_c)⟩

theorem Delimits.not_nameChar (h : Delimits rest) : ∀ c ∈ rest.head?, isNameChar c = false := by
  intro c h_c
  rcases h.first c h_c with h_blank | rfl
  · exact isNameChar_eq_false h_blank
  · decide

theorem Delimits.not_valueChar (h : Delimits rest) : ∀ c ∈ rest.head?, isValueChar c = false := by
  intro c h_c
  rcases h.first c h_c with h_blank | rfl
  · rw [isValueChar, h_blank]
    rfl
  · decide

/-- Blanks part an attribute from the next name. -/
theorem delimits_append (h : Blanks before) (h_ne : before ≠ [])
    (h_first : ∀ c ∈ s.head?, Text.isBlank c = false ∧ c ≠ '=') : Delimits (before ++ s) := by
  refine ⟨fun c h_c => ?_, fun c h_c => ?_⟩
  · obtain ⟨first, others, rfl⟩ := List.exists_cons_of_ne_nil h_ne
    obtain rfl := Option.some.inj h_c
    exact .inl (h _ List.mem_cons_self)
  · rw [h.dropWhile_append fun c h_c => (h_first c h_c).1] at h_c
    exact (h_first c h_c).2

/-! ## Reading -/

theorem value?_quoted (h_quote : quote = '"' ∨ quote = '\'') (h : quote ∉ value)
    (rest : List Char) : value? (quote :: (value ++ quote :: rest)) = some (value, rest) := by
  have h_read : quotedValue? quote (value ++ quote :: rest) = some (value, rest) := by
    rw [quotedValue?, Text.dropWhile_bne_append h, Text.takeWhile_bne_append h]
  rcases h_quote with rfl | rfl
  · exact h_read
  · exact h_read

theorem isValueChar_quote (h : quote = '"' ∨ quote = '\'') : isValueChar quote = false := by
  rcases h with rfl | rfl
  · decide
  · decide

theorem value?_unquoted (h_ne : value ≠ []) (h : ∀ c ∈ value, isValueChar c = true)
    (h_rest : ∀ c ∈ rest.head?, isValueChar c = false) :
    value? (value ++ rest) = some (value, rest) := by
  have h_empty : ¬value.isEmpty = true := fun h_nil => h_ne (List.isEmpty_iff.mp h_nil)
  have h_first : ∀ mark, mark = '"' ∨ mark = '\'' → ∀ others, value ++ rest ≠ mark :: others := by
    intro mark h_mark others h_eq
    obtain ⟨first, behind, rfl⟩ := List.exists_cons_of_ne_nil h_ne
    obtain rfl := (List.cons.inj h_eq).1
    have h_char := h first List.mem_cons_self
    rw [isValueChar_quote h_mark] at h_char
    cases h_char
  rw [value?, Text.takeWhile_append_of_stop h h_rest, Text.dropWhile_append_of_stop h h_rest,
    if_neg h_empty]
  · exact h_first '"' (.inl rfl)
  · exact h_first '\'' (.inr rfl)

theorem assigned?_append (h_before : Blanks before) (h_behind : Blanks behind)
    (h_first : ∀ c ∈ s.head?, Text.isBlank c = false) :
    assigned? (before ++ '=' :: (behind ++ s)) = value? s := by
  have h_equals : ∀ c ∈ ('=' :: (behind ++ s)).head?, Text.isBlank c = false := by
    intro c h_c
    obtain rfl := Option.some.inj h_c
    decide
  rw [assigned?, h_before.dropWhile_append h_equals]
  show value? ((behind ++ s).dropWhile Text.isBlank) = _
  rw [h_behind.dropWhile_append h_first]

theorem assignment_eq (h : ∀ c ∈ name, isNameChar c = true)
    (h_stop : ∀ c ∈ rest.head?, isNameChar c = false) :
    assignment (name ++ rest)
      = ((assigned? rest).map fun (value, behind) => ((name, some value), behind)).getD
        ((name, none), rest) := by
  rw [assignment, Text.takeWhile_append_of_stop h h_stop, Text.dropWhile_append_of_stop h h_stop]
  cases assigned? rest <;> rfl

theorem assignment_name (s : List Char) : (assignment s).1.1 = s.takeWhile isNameChar := by
  rw [assignment]
  split <;> rfl

theorem not_nameChar_equals (h_before : Blanks before) (rest : List Char) :
    ∀ c ∈ (before ++ '=' :: rest).head?, isNameChar c = false := by
  intro c h_c
  cases before with
  | nil =>
    obtain rfl := Option.some.inj h_c
    decide
  | cons first others =>
    obtain rfl := Option.some.inj h_c
    exact isNameChar_eq_false (h_before _ List.mem_cons_self)

/-- A value in quotes is read, whatever stands behind it. -/
theorem assignment_quoted (h_name : ∀ c ∈ name, isNameChar c = true)
    (h_quote : quote = '"' ∨ quote = '\'') (h_before : Blanks before) (h_behind : Blanks behind)
    (h : quote ∉ value) (rest : List Char) :
    assignment (name ++ (before ++ '=' :: (behind ++ quote :: (value ++ quote :: rest))))
      = ((name, some value), rest) := by
  have h_first : ∀ c ∈ (quote :: (value ++ quote :: rest)).head?, Text.isBlank c = false := by
    intro c h_c
    obtain rfl := Option.some.inj h_c
    rcases h_quote with rfl | rfl
    · decide
    · decide
  rw [assignment_eq h_name (not_nameChar_equals h_before _),
    assigned?_append h_before h_behind h_first, value?_quoted h_quote h]
  rfl

/-- An attribute is read from each of its texts. -/
theorem assignment_append (h : Denotes a text) (h_name : IsName a.1) (h_rest : Delimits rest) :
    assignment (text ++ rest) = (a, rest) := by
  cases h with
  | bare =>
    have h_none : assigned? rest = none := by
      rw [assigned?]
      split
      · rename_i behind h_drop
        exact absurd rfl (h_rest.unassigned '=' (by rw [h_drop]; rfl))
      · rfl
    rw [assignment_eq h_name.chars h_rest.not_nameChar, h_none]
    rfl
  | quoted h_quote h_before h_behind h =>
    have h_read := assignment_quoted h_name.chars h_quote h_before h_behind h rest
    simpa only [List.append_assoc, List.cons_append, List.nil_append] using h_read
  | unquoted h_before h_behind h_ne h =>
    rename_i name before behind value
    have h_first : ∀ c ∈ (value ++ rest).head?, Text.isBlank c = false := by
      obtain ⟨first, others, rfl⟩ := List.exists_cons_of_ne_nil h_ne
      intro c h_c
      obtain rfl := Option.some.inj h_c
      exact isBlank_eq_false_of_isValueChar (h first List.mem_cons_self)
    have h_text : name ++ (before ++ '=' :: (behind ++ value)) ++ rest
        = name ++ (before ++ '=' :: (behind ++ (value ++ rest))) := by
      simp only [List.append_assoc, List.cons_append]
    rw [h_text, assignment_eq h_name.chars (not_nameChar_equals h_before _),
      assigned?_append h_before h_behind h_first, value?_unquoted h_ne h h_rest.not_valueChar]
    rfl

/-! ## What was read -/

theorem exists_of_value? (h : value? s = some (value, rest)) :
    (∃ quote, (quote = '"' ∨ quote = '\'') ∧ quote ∉ value ∧ s = quote :: (value ++ quote :: rest))
      ∨ (value ≠ [] ∧ (∀ c ∈ value, isValueChar c = true) ∧ s = value ++ rest) := by
  have h_quoted : ∀ {quote : Char} {s : List Char}, quotedValue? quote s = some (value, rest) →
      quote ∉ value ∧ s = value ++ quote :: rest := by
    intro quote s h_read
    rw [quotedValue?] at h_read
    split at h_read
    · rename_i mark behind h_drop
      obtain ⟨rfl, rfl⟩ := Prod.mk.inj (Option.some.inj h_read)
      have h_head := List.head?_dropWhile_not (· != quote) s
      rw [h_drop] at h_head
      obtain rfl : mark = quote := by simpa using h_head
      refine ⟨fun h_mem => absurd (List.mem_takeWhile_imp h_mem) (by simp), ?_⟩
      rw [← h_drop, List.takeWhile_append_dropWhile]
    · cases h_read
  unfold value? at h
  split at h
  · obtain ⟨h_not, rfl⟩ := h_quoted h
    exact .inl ⟨'"', .inl rfl, h_not, rfl⟩
  · obtain ⟨h_not, rfl⟩ := h_quoted h
    exact .inl ⟨'\'', .inr rfl, h_not, rfl⟩
  · split at h
    · cases h
    · rename_i h_ne
      obtain ⟨rfl, rfl⟩ := Prod.mk.inj (Option.some.inj h)
      exact .inr ⟨fun h_nil => h_ne (List.isEmpty_iff.mpr h_nil), fun c h_mem =>
        List.mem_takeWhile_imp h_mem, List.takeWhile_append_dropWhile.symm⟩

theorem exists_of_assigned? (h : assigned? s = some (value, rest)) :
    ∃ before behind written, Blanks before ∧ Blanks behind
      ∧ s = before ++ '=' :: (behind ++ written) ∧ value? written = some (value, rest) := by
  unfold assigned? at h
  split at h
  · rename_i others h_drop
    refine ⟨s.takeWhile Text.isBlank, others.takeWhile Text.isBlank, _, fun c h_mem =>
      List.mem_takeWhile_imp h_mem, fun c h_mem => List.mem_takeWhile_imp h_mem, ?_, h⟩
    rw [List.takeWhile_append_dropWhile, ← h_drop, List.takeWhile_append_dropWhile]
  · cases h

/-- What is read as an attribute is one of its texts. -/
theorem exists_denotes (s : List Char) :
    ∃ text, s = text ++ (assignment s).2 ∧ Denotes (assignment s).1 text := by
  have h_split := List.takeWhile_append_dropWhile (p := isNameChar) (l := s)
  rw [assignment]
  split
  · rename_i value rest h_assigned
    obtain ⟨before, behind, written, h_before, h_behind, h_text, h_value⟩ :=
      exists_of_assigned? h_assigned
    rw [h_text] at h_split
    rcases exists_of_value? h_value with ⟨quote, h_quote, h_not, rfl⟩ | ⟨h_ne, h_chars, rfl⟩
    · refine ⟨_, h_split.symm.trans ?_, .quoted h_quote h_before h_behind h_not⟩
      simp only [List.append_assoc, List.cons_append, List.nil_append]
    · refine ⟨_, h_split.symm.trans ?_, .unquoted h_before h_behind h_ne h_chars⟩
      simp only [List.append_assoc, List.cons_append]
  · exact ⟨_, h_split.symm, .bare⟩

theorem Denotes.exists_append (h : Denotes a text) : ∃ others, text = a.1 ++ others := by
  cases h with
  | bare => exact ⟨[], (List.append_nil _).symm⟩
  | quoted => exact ⟨_, rfl⟩
  | unquoted => exact ⟨_, rfl⟩

theorem Denotes.head (h : Denotes a text) (h_name : IsName a.1) (rest : List Char) :
    ∀ c ∈ (text ++ rest).head?, isNameChar c = true := by
  obtain ⟨others, rfl⟩ := h.exists_append
  rw [List.append_assoc]
  exact h_name.head _

-- ============================================================================
-- Lists of attributes
-- ============================================================================

theorem attribute?_append (h : Blanks before) (h_ne : before ≠ [])
    (h_first : ∀ c ∈ s.head?, isNameChar c = true) (h_s : s ≠ []) :
    attribute? (before ++ s) = some (assignment s) := by
  obtain ⟨blank, others, rfl⟩ := List.exists_cons_of_ne_nil h_ne
  obtain ⟨first, behind, rfl⟩ := List.exists_cons_of_ne_nil h_s
  obtain ⟨h_blank, h_others⟩ := List.forall_mem_cons.mp h
  have h_name : isNameChar first = true := h_first first rfl
  have h_drop : (others ++ first :: behind).dropWhile Text.isBlank = first :: behind :=
    Blanks.dropWhile_append h_others fun c h_c => isBlank_eq_false (h_first c h_c)
  rw [List.cons_append, attribute?, h_drop, h_blank, List.takeWhile_cons_of_pos h_name]
  rfl

/-- Where no name follows the blanks there is no attribute. -/
theorem attribute?_eq_none (h : ∀ c ∈ (s.dropWhile Text.isBlank).head?, isNameChar c = false) :
    attribute? s = none := by
  cases s with
  | nil => rfl
  | cons first others =>
    rw [attribute?]
    cases h_blank : Text.isBlank first with
    | false => rfl
    | true =>
      rw [List.dropWhile_cons_of_pos h_blank] at h
      have h_empty : (others.dropWhile Text.isBlank).takeWhile isNameChar = [] := by
        cases h_drop : others.dropWhile Text.isBlank with
        | nil => rfl
        | cons c behind =>
          rw [h_drop] at h
          exact List.takeWhile_cons_of_neg (by rw [h c rfl]; exact Bool.false_ne_true)
      rw [h_empty]
      rfl

theorem exists_of_attribute? (h : attribute? s = some (a, rest)) :
    ∃ before body, Blanks before ∧ before ≠ [] ∧ s = before ++ body
      ∧ IsName (body.takeWhile isNameChar) ∧ assignment body = (a, rest) := by
  cases s with
  | nil => cases h
  | cons blank others =>
    rw [attribute?] at h
    split at h
    · rename_i h_name
      rw [Bool.and_eq_true, Bool.not_eq_true', List.isEmpty_eq_false_iff] at h_name
      refine ⟨blank :: others.takeWhile Text.isBlank, others.dropWhile Text.isBlank,
        List.forall_mem_cons.mpr ⟨h_name.1, fun c h_mem => List.mem_takeWhile_imp h_mem⟩,
        List.cons_ne_nil _ _, ?_, ⟨h_name.2, fun c h_mem => List.mem_takeWhile_imp h_mem⟩,
        Option.some.inj h⟩
      rw [List.cons_append, List.takeWhile_append_dropWhile]
    · cases h

theorem attributes_of_some (h : attribute? s = some (a, rest)) :
    attributes s = (a :: (attributes rest).1, (attributes rest).2) := by
  rw [attributes]
  split
  · rename_i h_some
    rw [h] at h_some
    obtain ⟨rfl, rfl⟩ := Prod.mk.inj (Option.some.inj h_some)
    rfl
  · rename_i h_none
    rw [h] at h_none
    cases h_none

theorem attributes_of_none (h : attribute? s = none) : attributes s = ([], s) := by
  rw [attributes]
  split
  · rename_i h_some
    rw [h] at h_some
    cases h_some
  · rfl

/-! ## The second reading -/

theorem scanned_nil : scanned [] = [] := by
  rw [scanned]
  rfl

/-- An attribute is found behind anything that is no part of a name. -/
theorem scanned_append (h_before : ∀ c ∈ before, isNameChar c = false)
    (h_first : ∀ c ∈ s.head?, isNameChar c = true) (h_s : s ≠ []) :
    scanned (before ++ s) = (assignment s).1 :: scanned (assignment s).2 := by
  have h_drop : (before ++ s).dropWhile (fun c => !isNameChar c) = s := by
    refine Text.dropWhile_append_of_stop (fun c h_mem => ?_) fun c h_c => ?_
    · rw [h_before c h_mem]
      rfl
    · rw [h_first c h_c]
      rfl
  rw [scanned]
  split
  · rename_i h_nil
    exact absurd (h_drop.symm.trans h_nil) h_s
  · rename_i h_cons
    rw [h_drop] at h_cons
    rw [h_cons]

/-- The text before what stands behind the attributes: read for itself it has the same ones, and it
    may stand behind an attribute. -/
theorem exists_taken (s : List Char) : ∃ taken, s = taken ++ (attributes s).2
    ∧ scanned taken = (attributes s).1 ∧ Delimits taken := by
  fun_induction attributes s with
  | case1 s a rest h as behind h_eq ih =>
    obtain ⟨taken, h_taken, h_scanned, h_bound⟩ := ih
    rw [h_eq] at h_taken h_scanned
    obtain ⟨before, body, h_before, h_ne, rfl, h_name, h_read⟩ := exists_of_attribute? h
    obtain ⟨text, h_body, h_text⟩ := exists_denotes body
    rw [h_read] at h_body h_text
    have h_same : a.1 = body.takeWhile isNameChar := by
      rw [← assignment_name, h_read]
    rw [← h_same] at h_name
    dsimp only at h_body h_text h_taken h_scanned
    have h_ne_nil : text ++ taken ≠ [] := by
      obtain ⟨others, rfl⟩ := h_text.exists_append
      simp [h_name.ne_nil]
    refine ⟨before ++ (text ++ taken), ?_, ?_, delimits_append h_before h_ne fun c h_c => ?_⟩
    · rw [h_body, h_taken]
      simp only [List.append_assoc]
    · rw [scanned_append (fun c h_mem => isNameChar_eq_false (h_before c h_mem))
        (h_text.head h_name taken) h_ne_nil, assignment_append h_text h_name h_bound, h_scanned]
    · have h_char := h_text.head h_name taken c h_c
      refine ⟨isBlank_eq_false h_char, ?_⟩
      rintro rfl
      cases h_char
  | case2 s h => exact ⟨[], rfl, scanned_nil, delimits_nil⟩

/-- Read for itself, the text that attributes take has these attributes. -/
theorem scanned_taken (s : List Char) :
    scanned (s.take (s.length - (attributes s).2.length)) = (attributes s).1 := by
  obtain ⟨taken, h_taken, h_scanned, -⟩ := exists_taken s
  have h_length := congrArg List.length h_taken
  rw [List.length_append] at h_length
  have h_take : s.take taken.length = taken :=
    (congrArg (List.take taken.length) h_taken).trans List.take_left
  rw [h_length, Nat.add_sub_cancel, h_take, h_scanned]

-- ============================================================================
-- Names that are given twice
-- ============================================================================

/-- Whether two attributes have one name. -/
def sameName (a b : Attribute) : Bool :=
  a.1 == b.1

theorem eraseDupsBy_sameName (a : Attribute) (l : List Attribute) :
    (a :: l).eraseDupsBy sameName = a :: (l.filter fun b => b.1 != a.1).eraseDupsBy sameName := by
  rw [List.eraseDupsBy_cons]
  refine congrArg (fun l => a :: l.eraseDupsBy sameName) (List.filter_congr fun b _ => ?_)
  rw [sameName, bne]
  cases b.1 == a.1 <;> rfl

/-- The attributes of one name may be left out before or after. -/
theorem filter_eraseDupsBy (name : String) (l : List Attribute) :
    (l.eraseDupsBy sameName).filter (fun a => a.1 != name)
      = (l.filter fun a => a.1 != name).eraseDupsBy sameName := by
  induction h_length : l.length using Nat.strong_induction_on generalizing l with
  | _ n ih =>
    cases l with
    | nil => rfl
    | cons a l =>
      have h_le := List.length_filter_le (fun b => b.1 != a.1) l
      have h_rest := ih _ (by rw [← h_length]; exact Nat.lt_succ_of_le h_le) _ rfl
      rw [eraseDupsBy_sameName, List.filter_cons, List.filter_cons, h_rest, List.filter_filter]
      cases h_name : a.1 != name with
      | true =>
        rw [if_pos rfl, if_pos rfl, eraseDupsBy_sameName, List.filter_filter]
        exact congrArg (fun l => a :: l.eraseDupsBy sameName)
          (List.filter_congr fun b _ => Bool.and_comm _ _)
      | false =>
        obtain rfl : a.1 = name := by simpa using h_name
        rw [if_neg Bool.false_ne_true, if_neg Bool.false_ne_true]
        simp only [Bool.and_self]

/-- An element has the first attribute of each name. -/
theorem distinct_eq (written : List Written) : distinct written
    = (written.map fun a => (lowerName a.1, String.ofList (decodeChars (a.2.getD [])))).eraseDupsBy
      sameName := by
  induction written with
  | nil => rfl
  | cons a rest ih =>
    obtain ⟨name, value⟩ := a
    rw [distinct, ih, filter_eraseDupsBy, List.map_cons, eraseDupsBy_sameName]

-- ============================================================================
-- Tags
-- ============================================================================

/-- A name that a tag may have, in letters of either case. -/
structure IsTagWord (tag : String) : Prop where
  letter_first : ∃ c ∈ tag.toList.head?, c.isAlpha = true
  tag_chars : ∀ c ∈ tag.toList.tail, isTagChar c = true

/-- The attributes of a tag are those that are read on the way to its end. -/
theorem named?_append (isEnd : Bool) {tag : String} (h : IsTagWord tag) {body : List Char}
    (h_stop : ∀ c ∈ body.head?, isTagChar c = false) {written : List Written}
    (h_read : attributes body = (written, behind)) {slash : Bool}
    (h_end : tagEnd? (behind.dropWhile Text.isBlank) = some (slash, rest)) :
    named? isEnd (tag.toList ++ body)
      = some (if isEnd then .endTag (lowerName tag.toList)
        else .startTag (lowerName tag.toList) (distinct written) slash, rest) := by
  obtain ⟨first, h_first, h_letter⟩ := h.letter_first
  obtain ⟨others, h_tag⟩ := List.head?_eq_some_iff.mp h_first
  have h_others : ∀ c ∈ others, isTagChar c = true := by
    have h_chars := h.tag_chars
    rwa [h_tag, List.tail_cons] at h_chars
  have h_written := scanned_taken body
  rw [h_read] at h_written
  rw [h_tag, List.cons_append, named?, if_pos h_letter]
  simp only [Text.takeWhile_append_of_stop h_others h_stop,
    Text.dropWhile_append_of_stop h_others h_stop, h_read, h_written, h_end]
  rfl

/-- Behind a bracket a letter starts a tag, which is neither an end tag nor a declaration. -/
theorem next?_letter (h : c.isAlpha = true) (s : List Char) :
    next? ('<' :: c :: s) = named? false (c :: s) := by
  have h_bang : c ≠ '!' := by rintro rfl; cases h
  have h_slash : c ≠ '/' := by rintro rfl; cases h
  rw [next?.eq_3, tag?.eq_2]
  · exact fun _ h_eq => h_slash (List.cons.inj h_eq).1
  · exact fun _ h_eq => h_bang (List.cons.inj h_eq).1
  · exact fun _ h_eq => h_bang (List.cons.inj h_eq).1

/-- The texts of some attributes, each with blanks before it. -/
inductive AttributesText : List Attribute → List Char → Prop
  | nil : AttributesText [] []
  | cons {a : Attribute} {l : List Attribute} {blanks text rest : List Char}
      {written : Option (List Char)} (h_name : IsName a.1.toList) (h_blanks : Blanks blanks)
      (h_ne : blanks ≠ []) (h_text : Denotes (a.1.toList, written) text)
      (h_value : Spells a.2.toList (written.getD [])) (h_rest : AttributesText l rest) :
      AttributesText (a :: l) (blanks ++ (text ++ rest))

/-- The end of a tag: blanks, perhaps a slash, and the closing bracket. -/
def ending (blanks : List Char) (slash : Bool) : List Char :=
  blanks ++ if slash then ['/', '>'] else ['>']

/-- The texts of a start tag. A slash at its end has blanks before it, or it would be a part of a
    value that is not in quotes. -/
inductive StartTagText (tag : String) (l : List Attribute) : List Char → Prop
  | mk {text blanks : List Char} (slash : Bool) (h_tag : IsTagWord tag)
      (h_l : AttributesText l text) (h_blanks : Blanks blanks)
      (h_slash : slash = true → blanks ≠ []) :
      StartTagText tag l
        ('<' :: (tag.toList ++ (text ++ ending blanks slash)))

/-- An attribute is apart from what stands behind it, be that more attributes or the end. -/
theorem AttributesText.delimits {l : List Attribute} (h : AttributesText l text)
    (h_rest : Delimits rest) : Delimits (text ++ rest) := by
  cases h with
  | nil => exact h_rest
  | cons h_name h_blanks h_ne h_text =>
    rw [List.append_assoc, List.append_assoc]
    refine delimits_append h_blanks h_ne fun c h_c => ?_
    have h_char := h_text.head h_name _ c h_c
    refine ⟨isBlank_eq_false h_char, ?_⟩
    rintro rfl
    cases h_char

/-- Attributes are read from their texts, up to the end of the tag. -/
theorem AttributesText.attributes_append {l : List Attribute} (h : AttributesText l text)
    (h_rest : Delimits rest) (h_end : attribute? rest = none) : ∃ written,
      attributes (text ++ rest) = (written, rest)
        ∧ written.map (fun a => (lowerName a.1, String.ofList (decodeChars (a.2.getD []))))
          = l.map fun a => (lowerName a.1.toList, a.2) := by
  induction h with
  | nil => exact ⟨[], attributes_of_none h_end, rfl⟩
  | cons h_name h_blanks h_ne h_text h_value h_l ih =>
    rename_i a l blanks text others value
    obtain ⟨written, h_read, h_written⟩ := ih
    have h_assignment := assignment_append h_text h_name (h_l.delimits h_rest)
    have h_first : attribute? (blanks ++ (text ++ (others ++ rest)))
        = some ((a.1.toList, value), others ++ rest) := by
      rw [attribute?_append h_blanks h_ne (h_text.head h_name _), h_assignment]
      obtain ⟨behind, rfl⟩ := h_text.exists_append
      simp [h_name.ne_nil]
    refine ⟨(a.1.toList, value) :: written, ?_, ?_⟩
    · rw [List.append_assoc, List.append_assoc, attributes_of_some h_first, h_read]
    · rw [List.map_cons, List.map_cons, h_written, h_value.decodeChars_eq, String.ofList_toList]

theorem dropWhile_ending (h : Blanks before) (slash : Bool) :
    (ending before slash).dropWhile Text.isBlank = if slash then ['/', '>'] else ['>'] := by
  refine h.dropWhile_append fun c h_c => ?_
  cases slash with
  | true => obtain rfl := Option.some.inj h_c; decide
  | false => obtain rfl := Option.some.inj h_c; decide

theorem delimits_ending (h : Blanks before) {slash : Bool} (h_slash : slash = true → before ≠ []) :
    Delimits (ending before slash) := by
  by_cases h_ne : before = []
  · subst h_ne
    cases slash with
    | true => exact absurd rfl (h_slash rfl)
    | false =>
      refine ⟨fun c h_c => ?_, fun c h_c => ?_⟩
      · exact .inr (Option.some.inj h_c).symm
      · obtain rfl := Option.some.inj h_c
        decide
  · refine delimits_append h h_ne fun c h_c => ?_
    cases slash with
    | true => obtain rfl := Option.some.inj h_c; decide
    | false => obtain rfl := Option.some.inj h_c; decide

theorem attribute?_ending (h : Blanks before) (slash : Bool) :
    attribute? (ending before slash) = none := by
  refine attribute?_eq_none fun c h_c => ?_
  rw [dropWhile_ending h] at h_c
  cases slash with
  | true => obtain rfl := Option.some.inj h_c; decide
  | false => obtain rfl := Option.some.inj h_c; decide

/-- A start tag in any of its spellings is the token with the lower-case name and the first
    attribute of each lower-case name. -/
theorem StartTagText.exists_next? {tag : String} {l : List Attribute}
    (h : StartTagText tag l text) : ∃ slash, next? text = some (.startTag (lowerName tag.toList)
      ((l.map fun a => (lowerName a.1.toList, a.2)).eraseDupsBy sameName) slash, []) := by
  obtain ⟨slash, h_tag, h_l, h_blanks, h_slash⟩ := h
  rename_i attributes blanks
  have h_bound := delimits_ending h_blanks h_slash
  obtain ⟨written, h_read, h_written⟩ :=
    h_l.attributes_append h_bound (attribute?_ending h_blanks slash)
  have h_stop : ∀ c ∈ (attributes ++ ending blanks slash).head?, isTagChar c = false := by
    intro c h_c
    rcases (h_l.delimits h_bound).first c h_c with h_blank | rfl
    · exact isTagChar_eq_false h_blank
    · decide
  have h_end : tagEnd? ((ending blanks slash).dropWhile Text.isBlank) = some (slash, []) := by
    rw [dropWhile_ending h_blanks]
    cases slash <;> rfl
  have h_named := named?_append false h_tag h_stop h_read h_end
  rw [distinct_eq, h_written] at h_named
  obtain ⟨first, h_first, h_letter⟩ := h_tag.letter_first
  obtain ⟨others, h_cons⟩ := List.head?_eq_some_iff.mp h_first
  refine ⟨slash, ?_⟩
  rw [h_cons, List.cons_append] at h_named ⊢
  exact (next?_letter h_letter _).trans h_named

-- ============================================================================
-- Documents
-- ============================================================================

theorem ofChars_of_next? {s rest : List Char} {token : Token} (h : next? s = some (token, rest)) :
    ofChars s = token :: ofChars rest := by
  cases s with
  | nil => cases h
  | cons c behind =>
    rw [ofChars]
    split
    · rename_i h_some
      rw [h] at h_some
      obtain ⟨rfl, rfl⟩ := Prod.mk.inj (Option.some.inj h_some)
      rfl
    · rename_i h_none
      rw [h] at h_none
      cases h_none

end Token

/-- Alone, a start tag is an element, be it closed or not. -/
theorem Forest.ofTokens_startTag (tag : String) (attributes : List Attribute) (slash : Bool) :
    Forest.ofTokens [.startTag tag attributes slash] = [.element tag attributes []] := by
  show (Forest.empty.openTag tag attributes slash).finish = _
  rw [Forest.openTag]
  split
  · rfl
  · rfl

/-- A document that is a start tag, in any of its spellings, is an element with the lower-case tag
    and the first attribute of each lower-case name. -/
theorem requireElement_startTag {tag : String} {l : List Attribute} {markup : String}
    (h : Token.StartTagText tag l markup.toList) : requireElement markup = .ok {
      tag := Token.lowerName tag.toList
      attributes := (l.map fun a => (Token.lowerName a.1.toList, a.2)).eraseDupsBy Token.sameName
      children := [] } := by
  obtain ⟨slash, h_next⟩ := h.exists_next?
  have h_tokens := Token.ofChars_of_next? h_next
  have h_nil : Token.ofChars [] = [] := by rw [Token.ofChars]
  rw [requireElement, parseElement?, parse, h_tokens, h_nil, Forest.ofTokens_startTag]
  rfl

/-- A tag with a value of each style: one without quotes that ends with a slash, one in single
    quotes with a reference and blanks around the sign, one in double quotes for a name that is
    there already, and none. -/
def mixedTag : String :=
  "<TD Data-Id=5/ CLASS = 'a&amp;b' data-id=\"x\" hidden />"

theorem requireElement_startTag_mixedTag : requireElement mixedTag = .ok {
    tag := "td", attributes := [("data-id", "5/"), ("class", "a&b"), ("hidden", "")]
    children := [] } := by
  have h_amp : Spells "a&b".toList "a&amp;b".toList := by
    have h_means : Means "amp".toList '&' := means_of_mem_namedReferences (by decide)
    have h_b : Spells "b".toList "b".toList := Spells.plain (c := 'b') (by decide) .nil
    exact Spells.plain (c := 'a') (by decide) (.reference h_means h_b)
  have h_five : Spells "5/".toList "5/".toList :=
    Spells.plain (c := '5') (by decide) (.plain (c := '/') (by decide) .nil)
  have h_x : Spells "x".toList "x".toList := Spells.plain (c := 'x') (by decide) .nil
  have h_blank : Token.Blanks [' '] := List.forall_mem_singleton.mpr rfl
  have h_none : Token.Blanks [] := List.forall_mem_nil _
  have h_ne : [' '] ≠ [] := List.cons_ne_nil _ _
  have h_name (a : Char) (b : List Char) (h : (a :: b).all Token.isNameChar = true) :
      Token.IsName (a :: b) :=
    ⟨List.cons_ne_nil _ _, List.all_eq_true.mp h⟩
  have h_hidden : Token.AttributesText [("hidden", "")] ([' '] ++ ("hidden".toList ++ [])) :=
    .cons (h_name _ _ rfl) h_blank h_ne .bare .nil .nil
  have h_id : Token.AttributesText [("data-id", "x"), ("hidden", "")] ([' '] ++ (_ ++ _)) :=
    .cons (h_name _ _ rfl) h_blank h_ne (.quoted (.inl rfl) h_none h_none (by decide)) h_x h_hidden
  have h_class : Token.AttributesText [("CLASS", "a&b"), ("data-id", "x"), ("hidden", "")]
      ([' '] ++ (_ ++ _)) :=
    .cons (h_name _ _ rfl) h_blank h_ne (.quoted (.inr rfl) h_blank h_blank (by decide)) h_amp h_id
  have h_value : ∀ c ∈ "5/".toList, Token.isValueChar c = true :=
    Text.forall_mem_of_all (by decide)
  have h_all : Token.AttributesText
      [("Data-Id", "5/"), ("CLASS", "a&b"), ("data-id", "x"), ("hidden", "")]
      ([' '] ++ (_ ++ _)) :=
    .cons (h_name _ _ rfl) h_blank h_ne (.unquoted h_none h_none (by decide) h_value) h_five h_class
  have h_tag : Token.IsTagWord "TD" := ⟨⟨'T', rfl, rfl⟩, Text.forall_mem_of_all (by decide)⟩
  have h_markup : Token.StartTagText "TD" _ mixedTag.toList :=
    .mk true h_tag h_all h_blank fun _ => h_ne
  exact requireElement_startTag h_markup

end Markup
end PageObjects
