/-
  PageObjects.Proofs.Markup.Lexing

  Written tokens are read back as they were written. Every kind of token has its
  lemma, stated for any text behind it:

    * `attributes_written`: the attributes of a tag, up to the end of the tag.
    * `next?_startTag`, `next?_endTag`, `next?_comment`: the marked tokens.
    * `ofChars_run`: a run of text, up to the next marked token.
    * `ofChars_written`: a list of tokens, no two texts side by side.
-/

import PageObjects.Proofs.Markup.Spelling

namespace PageObjects
namespace Markup
namespace Token

-- ============================================================================
-- Names
-- ============================================================================

theorem toLower_eq_self {c : Char} (h : c.isUpper = false) : c.toLower = c := by
  delta Char.isUpper at h
  delta Char.toLower
  rw [dif_neg (of_decide_eq_false h)]

/-- A name in lower case is its own lower case. -/
theorem lowerName_eq_self {name : String} (h : IsLowerCase name) :
    lowerName name.toList = name := by
  have h_map : name.toList.map Char.toLower = name.toList.map id :=
    List.map_congr_left fun c h_c => toLower_eq_self (h c h_c)
  rw [lowerName, h_map, List.map_id, String.ofList_toList]

-- ============================================================================
-- Attributes
-- ============================================================================

/-- What an attribute is read as: its name, and its value with references. -/
def asWritten (a : Attribute) : Written :=
  (a.1.toList, some (escape a.2.toList))

theorem isName_of_isAttributeName {name : String} (h : IsAttributeName name) : IsName name.toList :=
  ⟨fun h_nil => h.ne_empty (String.toList_eq_nil_iff.mp h_nil), h.name_chars⟩

theorem attribute?_written {a : Attribute} (h : IsAttributeName a.1) (rest : List Char) :
    attribute? (writtenAttribute a ++ rest) = some (asWritten a, rest) := by
  obtain ⟨name, value⟩ := a
  have h_name := isName_of_isAttributeName h
  have h_text : writtenAttribute (name, value) ++ rest
      = [' '] ++ (name.toList ++ '=' :: '"' :: (escape value.toList ++ '"' :: rest)) := by
    simp only [writtenAttribute, List.cons_append, List.append_assoc, List.nil_append]
  have h_quote : '"' ∉ escape value.toList := not_mem_escape (by decide) _
  have h_blank : Blanks [' '] := List.forall_mem_singleton.mpr (by decide)
  have h_none : Blanks [] := fun c h_mem => absurd h_mem List.not_mem_nil
  rw [h_text, attribute?_append h_blank (List.cons_ne_nil _ _) (h_name.head _) (by simp)]
  exact congrArg some (assignment_quoted h_name.chars (.inl rfl) h_none h_none h_quote rest)

/-- The attributes of a tag are read up to the end of the tag. -/
theorem attributes_written {l : List Attribute} (h : ∀ a ∈ l, IsAttributeName a.1)
    {rest : List Char} (h_rest : ∀ c ∈ rest.head?, Text.isBlank c = false) :
    attributes (l.flatMap writtenAttribute ++ rest) = (l.map asWritten, rest) := by
  induction l with
  | nil =>
    have h_none : attribute? rest = none := by
      cases rest with
      | nil => rfl
      | cons c s =>
        simp only [attribute?, h_rest c rfl, Bool.false_and, Bool.false_eq_true, if_false]
    exact attributes_of_none h_none
  | cons a l ih =>
    obtain ⟨h_a, h_l⟩ := List.forall_mem_cons.mp h
    have h_first := attribute?_written h_a (l.flatMap writtenAttribute ++ rest)
    rw [List.flatMap_cons, List.append_assoc, attributes_of_some h_first, ih h_l]
    rfl

/-- Names that are given once, in lower case, stay as they are. -/
theorem distinct_asWritten {l : List Attribute} (h : SoundAttributes l) :
    distinct (l.map asWritten) = l := by
  induction l with
  | nil => rfl
  | cons a l ih =>
    obtain ⟨name, value⟩ := a
    obtain ⟨h_lower, h_nodup⟩ := h
    obtain ⟨h_name, h_names⟩ := List.forall_mem_cons.mp h_lower
    obtain ⟨h_fresh, h_others⟩ := List.nodup_cons.mp h_nodup
    have h_kept : (l.filter fun a => a.1 != name) = l := by
      rw [List.filter_eq_self]
      intro other h_other
      rw [bne_iff_ne]
      rintro rfl
      exact h_fresh (List.mem_map.mpr ⟨other, h_other, rfl⟩)
    rw [List.map_cons, asWritten, distinct, Option.getD_some, decodeChars_escape,
      lowerName_eq_self h_name, String.ofList_toList, ih ⟨h_names, h_others⟩, h_kept]

-- ============================================================================
-- Tags
-- ============================================================================

/-- The end of a tag, with a slash or without. -/
theorem tagEnd?_written (slash : Bool) (rest : List Char) :
    tagEnd? (((if slash then ['/', '>'] else ['>']) ++ rest).dropWhile Text.isBlank)
      = some (slash, rest) := by
  cases slash with
  | true =>
    show tagEnd? (('/' :: '>' :: rest).dropWhile Text.isBlank) = _
    rw [List.dropWhile_cons_of_neg (by decide)]
    rfl
  | false =>
    show tagEnd? (('>' :: rest).dropWhile Text.isBlank) = _
    rw [List.dropWhile_cons_of_neg (by decide)]
    rfl

/-- A tag is read back from behind its opening. -/
theorem named?_written (isEnd : Bool) {name : String} (h_name : IsTagName name)
    {l : List Attribute} (h_l : ∀ a ∈ l, IsAttributeName a.1) (slash : Bool) (rest : List Char) :
    named? isEnd (name.toList ++ (l.flatMap writtenAttribute
        ++ ((if slash then ['/', '>'] else ['>']) ++ rest)))
      = some (if isEnd then .endTag name else .startTag name (distinct (l.map asWritten)) slash,
        rest) := by
  have h_word : IsTagWord name := ⟨h_name.letter_first, h_name.tag_chars⟩
  have h_end := tagEnd?_written slash rest
  have h_marks : ∀ c ∈ ((if slash then ['/', '>'] else ['>']) ++ rest).head?,
      Text.isBlank c = false ∧ isTagChar c = false := by
    intro c h_c
    cases slash <;> (obtain rfl := Option.some.inj h_c; decide)
  generalize (if slash then ['/', '>'] else ['>']) ++ rest = ending at h_end h_marks ⊢
  have h_stop : ∀ c ∈ (l.flatMap writtenAttribute ++ ending).head?, isTagChar c = false := by
    intro c h_c
    cases l with
    | nil => exact (h_marks c h_c).2
    | cons a l =>
      obtain rfl := Option.some.inj h_c
      decide
  have h_read := attributes_written h_l fun c h_c => (h_marks c h_c).1
  rw [named?_append isEnd h_word h_stop h_read h_end, lowerName_eq_self h_name.lower]

theorem next?_startTag {name : String} {attributes : List Attribute} {slash : Bool}
    (h : (startTag name attributes slash).Writable) (rest : List Char) :
    next? ((startTag name attributes slash).written ++ rest)
      = some (.startTag name attributes slash, rest) := by
  obtain ⟨h_name, h_attributes, h_names⟩ := h
  have h_read := named?_written false h_name h_names slash rest
  rw [distinct_asWritten h_attributes] at h_read
  have h_text : (startTag name attributes slash).written ++ rest
      = '<' :: (name.toList ++ (attributes.flatMap writtenAttribute
        ++ ((if slash then ['/', '>'] else ['>']) ++ rest))) := by
    simp only [written, List.cons_append, List.append_assoc]
  rw [h_text]
  obtain ⟨c, h_head, h_letter⟩ := h_name.letter_first
  obtain ⟨s, h_cons⟩ := List.head?_eq_some_iff.mp h_head
  rw [h_cons, List.cons_append] at h_read ⊢
  exact (next?_letter h_letter _).trans h_read

theorem next?_endTag {name : String} (h : (endTag name).Writable) (rest : List Char) :
    next? ((endTag name).written ++ rest) = some (.endTag name, rest) := by
  have h_read := named?_written true (l := []) h (fun _ h_mem => absurd h_mem List.not_mem_nil)
    false rest
  have h_text : (endTag name).written ++ rest = '<' :: '/' :: (name.toList ++ '>' :: rest) := by
    simp only [written, List.cons_append, List.append_assoc, List.nil_append]
  rw [h_text]
  exact h_read

-- ============================================================================
-- Comments and declarations
-- ============================================================================

/-- A comment ends at the first end of a comment, which is the one behind its content. -/
theorem commentEnd?_written {content : List Char} (h : IsCommentText content) (rest : List Char) :
    commentEnd? (content ++ '-' :: '-' :: '>' :: rest) = some (content, rest) := by
  induction content with
  | nil => rfl
  | cons c content ih =>
    have h_content : IsCommentText content :=
      fun h_inner => h (h_inner.trans (List.suffix_cons c content).isInfix)
    rw [List.cons_append, commentEnd?.eq_3, ih h_content]
    · rfl
    · -- an end that began here would end inside the content
      rintro behind rfl h_eq
      rcases content with _ | ⟨second, _ | ⟨third, others⟩⟩
      · cases h_eq
      · cases h_eq
      · obtain ⟨h_second, h_eq⟩ := List.cons.inj h_eq
        obtain ⟨h_third, -⟩ := List.cons.inj h_eq
        subst h_second h_third
        exact h (List.prefix_append ['-', '-', '>'] others).isInfix

theorem next?_comment {content : List Char} (h : IsCommentText content) (rest : List Char) :
    next? ((comment content).written ++ rest) = some (.comment content, rest) := by
  have h_text : (comment content).written ++ rest
      = '<' :: '!' :: '-' :: '-' :: (content ++ '-' :: '-' :: '>' :: rest) := by
    simp only [written, List.cons_append, List.append_assoc, List.nil_append]
  rw [h_text, next?, commentEnd?_written h]
  rfl

theorem next?_declaration (rest : List Char) :
    next? (declaration.written ++ rest) = some (.declaration, rest) :=
  rfl

-- ============================================================================
-- Lists of tokens
-- ============================================================================

/-- A token that is no text is read at the head of a text. -/
theorem next?_written {token : Token} (h : token.Writable) (h_text : token.isText = false)
    (rest : List Char) : next? (token.written ++ rest) = some (token, rest) := by
  cases token with
  | text run => cases h_text
  | comment content => exact next?_comment h rest
  | declaration => exact next?_declaration rest
  | endTag name => exact next?_endTag h rest
  | startTag name attributes slash => exact next?_startTag h rest

/-- Nothing but an opening bracket starts a token other than text. -/
theorem ofChars_cons_of_ne {c : Char} (h : c ≠ '<') (s : List Char) :
    ofChars (c :: s) = consText c (ofChars s) := by
  have h_none : next? (c :: s) = none := by
    refine next?.eq_4 _ ?_ ?_ ?_ <;> exact fun _ h_eq => h (List.cons.inj h_eq).1
  rw [ofChars]
  split
  · rename_i h_some
    rw [h_none] at h_some
    cases h_some
  · rfl

/-- A run of text is one token, up to the next token that is no text. -/
theorem ofChars_run {run rest : List Char} (h : (text run).Writable)
    (h_rest : ∀ token ∈ (ofChars rest).head?, token.isText = false) :
    ofChars (run ++ rest) = .text run :: ofChars rest := by
  obtain ⟨h_ne, h_open⟩ := h
  induction run with
  | nil => exact absurd rfl h_ne
  | cons c run ih =>
    have h_c : c ≠ '<' := fun h_eq => h_open (h_eq ▸ List.mem_cons_self)
    have h_run : '<' ∉ run := fun h_mem => h_open (List.mem_cons_of_mem _ h_mem)
    rw [List.cons_append, ofChars_cons_of_ne h_c]
    cases run with
    | nil =>
      rw [List.nil_append]
      cases h_tokens : ofChars rest with
      | nil => rfl
      | cons token others =>
        rw [h_tokens] at h_rest
        cases token with
        | text run => cases h_rest (.text run) rfl
        | _ => rfl
    | cons second run =>
      rw [ih (List.cons_ne_nil _ _) h_run]
      rfl

/-- Written tokens are read back, if no two texts stand side by side. -/
theorem ofChars_written {tokens : List Token} (h : ∀ token ∈ tokens, token.Writable)
    (h_apart : tokens.IsChain fun a b => ¬(a.isText = true ∧ b.isText = true)) :
    ofChars (tokens.flatMap written) = tokens := by
  induction tokens with
  | nil => rw [List.flatMap_nil, ofChars]
  | cons token tokens ih =>
    obtain ⟨h_token, h_tokens⟩ := List.forall_mem_cons.mp h
    obtain ⟨h_head, h_apart⟩ := List.isChain_cons.mp h_apart
    have h_rest := ih h_tokens h_apart
    rw [List.flatMap_cons]
    cases h_text : token.isText with
    | false => rw [ofChars_of_next? (next?_written h_token h_text _), h_rest]
    | true =>
      cases token with
      | text run =>
        show ofChars (run ++ tokens.flatMap written) = _
        rw [ofChars_run h_token, h_rest]
        rw [h_rest]
        intro next h_next
        rw [Bool.eq_false_iff]
        exact fun h_both => h_head next h_next ⟨h_text, h_both⟩
      | _ => cases h_text

end Token
end Markup
end PageObjects
