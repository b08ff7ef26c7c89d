/-
  PageObjects.Proofs.Markup.Writing

  Forests as text, for the reader of trees to read back. A forest is first cut into
  the tokens that stand for it, and then the tokens are written one after the other.

    * `escape` writes a text, or a value in double quotes, with references.
    * `Token.written` writes a token.
    * `tokensOf` lists the tokens of a forest. An end tag may be left out where the
      start tag of the next sibling ends the element anyway; a set of places says
      which of these end tags are left out.
    * `render` is the text of a forest, and `Writable` says which forests have one.
-/

import PageObjects.Proofs.Markup.Decoding
import PageObjects.Proofs.Markup.WellFormed

namespace PageObjects
namespace Markup

-- ============================================================================
-- Texts
-- ============================================================================

/-- A character, by a reference if it could be taken for markup. -/
def escapeChar (c : Char) : List Char :=
  if c = '&' then "&amp;".toList
  else if c = '<' then "&lt;".toList
  else if c = '>' then "&gt;".toList
  else if c = '"' then "&quot;".toList
  else [c]

/-- A text with references for the characters that could be taken for markup. -/
def escape (s : List Char) : List Char :=
  s.flatMap escapeChar

/-- A written character is a reference to it, or the character itself. -/
theorem escapeChar_cases (c : Char) :
    (∃ name, (name, c) ∈ namedReferences ∧ escapeChar c = '&' :: (name ++ [';']))
      ∨ (c ∉ ['&', '<', '>', '"'] ∧ escapeChar c = [c]) := by
  unfold escapeChar
  split
  · exact .inl ⟨"amp".toList, by subst c; decide, rfl⟩
  · split
    · exact .inl ⟨"lt".toList, by subst c; decide, rfl⟩
    · split
      · exact .inl ⟨"gt".toList, by subst c; decide, rfl⟩
      · split
        · exact .inl ⟨"quot".toList, by subst c; decide, rfl⟩
        · exact .inr ⟨by simp [*], rfl⟩

/-- The names of references mean what the table says. -/
theorem means_of_mem_namedReferences {name : List Char} {c : Char}
    (h : (name, c) ∈ namedReferences) : Means name c := by
  have h_all : ∀ entry ∈ namedReferences, referent? entry.1 = some entry.2 := by
    decide
  exact referent?_eq_some_iff.mp (h_all (name, c) h)

/-- A written character is decoded to the character, whatever is written behind it. -/
theorem decodeChars_escapeChar_append (c : Char) (rest : List Char) :
    decodeChars (escapeChar c ++ rest) = c :: decodeChars rest := by
  rcases escapeChar_cases c with ⟨name, h_name, h_eq⟩ | ⟨h_plain, h_eq⟩
  · rw [h_eq, List.cons_append, List.append_assoc, List.singleton_append,
      decodeChars_reference (means_of_mem_namedReferences h_name)]
  · have h_ne : c ≠ '&' := fun h_amp => h_plain (h_amp ▸ List.mem_cons_self)
    rw [h_eq, List.singleton_append, decodeChars_plain h_ne]

/-- Decoding undoes escaping. -/
theorem decodeChars_escape (s : List Char) : decodeChars (escape s) = s := by
  induction s with
  | nil => rw [escape, List.flatMap_nil, decodeChars]
  | cons c rest ih =>
    rw [escape, List.flatMap_cons, decodeChars_escapeChar_append]
    exact congrArg (c :: ·) ih

/-- Escaped text has none of the characters that start or end markup. -/
theorem not_mem_escape {mark : Char} (h : mark ∈ ['<', '>', '"']) (s : List Char) :
    mark ∉ escape s := by
  have h_names : ∀ entry ∈ namedReferences, mark ∉ '&' :: (entry.1 ++ [';']) := by
    simp only [List.mem_cons, List.not_mem_nil, or_false] at h
    rcases h with rfl | rfl | rfl <;> decide
  intro h_mem
  obtain ⟨c, -, h_c⟩ := List.mem_flatMap.mp h_mem
  rcases escapeChar_cases c with ⟨name, h_name, h_eq⟩ | ⟨h_plain, h_eq⟩
  · rw [h_eq] at h_c
    exact h_names (name, c) h_name h_c
  · rw [h_eq, List.mem_singleton] at h_c
    exact h_plain (h_c ▸ List.mem_cons_of_mem _ h)

theorem escape_ne_nil {s : List Char} (h : s ≠ []) : escape s ≠ [] := by
  intro h_nil
  have h_decoded := decodeChars_escape s
  rw [h_nil, decodeChars] at h_decoded
  exact h h_decoded.symm

-- ============================================================================
-- Tokens
-- ============================================================================

/-- A name that a tag may have: lower case, and a letter first. -/
structure IsTagName (name : String) : Prop where
  lower : IsLowerCase name
  letter_first : ∃ c ∈ name.toList.head?, c.isAlpha = true
  tag_chars : ∀ c ∈ name.toList.tail, Token.isTagChar c = true

/-- A name that an attribute may have. -/
structure IsAttributeName (name : String) : Prop where
  ne_empty : name ≠ ""
  name_chars : ∀ c ∈ name.toList, Token.isNameChar c = true

/-- A content that a comment may have: the end of a comment does not occur in it. -/
def IsCommentText (content : List Char) : Prop :=
  ¬['-', '-', '>'] <:+: content

namespace Token

/-- An attribute as it is written, with the blank before it. -/
def writtenAttribute (a : Attribute) : List Char :=
  ' ' :: (a.1.toList ++ '=' :: '"' :: (escape a.2.toList ++ ['"']))

/-- A token as it is written. -/
def written : Token → List Char
  | .text run => run
  | .comment content => '<' :: '!' :: '-' :: '-' :: (content ++ ['-', '-', '>'])
  | .declaration => ['<', '!', 'd', 'o', 'c', 't', 'y', 'p', 'e', '>']
  | .endTag name => '<' :: '/' :: (name.toList ++ ['>'])
  | .startTag name attributes selfClosing =>
    '<' :: (name.toList ++ (attributes.flatMap writtenAttribute
      ++ if selfClosing then ['/', '>'] else ['>']))

/-- Whether the token is a run of text. -/
def isText : Token → Bool
  | .text _ => true
  | _ => false

/-- What a token must keep to be read back as it was written. -/
def Writable : Token → Prop
  | .text run => run ≠ [] ∧ '<' ∉ run
  | .comment content => IsCommentText content
  | .declaration => True
  | .endTag name => IsTagName name
  | .startTag name attributes _ =>
    IsTagName name ∧ SoundAttributes attributes ∧ ∀ a ∈ attributes, IsAttributeName a.1

end Token

-- ============================================================================
-- Forests
-- ============================================================================

/-- A place in a forest: a position among siblings, and those of the elements around it, the
    nearest first. -/
abbrev Place := List Nat

instance (inner outer : String) : Decidable (Ends inner outer) :=
  decidable_of_iff _ mem_implicitlyClosedBy_iff

/-- Whether a node is an element that ends where its next sibling starts. -/
def Node.endedBy (following : List Node) : Node → Bool
  | .element tag _ _ =>
    match following with
    | .element next _ _ :: _ => Ends next tag
    | _ => false
  | _ => false

mutual

/-- The tokens of a node. The end tags below it are left out at the places of `omitted` where they
    may be; its own is left out if `endOmitted` says so, and if it is void. -/
def Node.tokens (omitted : Place → Bool) (place : Place) (endOmitted : Bool) : Node → List Token
  | .element tag attributes children =>
    .startTag tag attributes false ::
      if tag ∈ voidTags then []
      else tokensOf omitted place 0 children ++ if endOmitted then [] else [.endTag tag]
  | .text content => [.text (escape content.toList)]
  | .comment content => [.comment content.toList]

/-- The tokens of some siblings, the first of them at `position` inside the place `around`. -/
def tokensOf (omitted : Place → Bool) (around : Place) (position : Nat) : List Node → List Token
  | [] => []
  | node :: rest =>
    node.tokens omitted (position :: around) (omitted (position :: around) && node.endedBy rest)
      ++ tokensOf omitted around (position + 1) rest

end

/-- The text of a forest, without those end tags at the places of `omitted` that the next start tag
    makes needless. -/
def render (omitted : Place → Bool) (forest : List Node) : String :=
  String.ofList ((tokensOf omitted [] 0 forest).flatMap Token.written)

/-- What an element keeps that can be written. -/
structure WritableElement (tag : String) (attributes : List Attribute) (children : List Node) :
    Prop where
  tag_name : IsTagName tag
  attributes_sound : SoundAttributes attributes
  attribute_names : ∀ a ∈ attributes, IsAttributeName a.1
  void_childless : tag ∈ voidTags → children = []
  children_apart : TextsApart children
  /-- The start tag of no child ends the element. -/
  not_ended : ∀ inner innerAttributes below,
    .element inner innerAttributes below ∈ children → ¬Ends inner tag

/-- What a node keeps that can be written. -/
def Node.IsWritable : Node → Prop
  | .element tag attributes children => WritableElement tag attributes children
  | .text content => content ≠ ""
  | .comment content => IsCommentText content.toList

/-- The forests that have a text. -/
structure Writable (forest : List Node) : Prop where
  roots_apart : TextsApart forest
  nodes : ∀ node, Occurs forest node → node.IsWritable

-- ============================================================================
-- Forests that are given
-- ============================================================================

instance (name : String) : Decidable (IsLowerCase name) :=
  inferInstanceAs (Decidable (∀ c ∈ name.toList, c.isUpper = false))

instance (attributes : List Attribute) : Decidable (SoundAttributes attributes) :=
  inferInstanceAs (Decidable ((∀ a ∈ attributes, IsLowerCase a.1) ∧ (attributes.map (·.1)).Nodup))

theorem forall_occurs_nil {motive : Node → Prop} (node : Node) (h : Occurs [] node) :
    motive node := by
  exfalso
  induction h with
  | root h_mem => cases h_mem
  | child _ _ ih => exact ih

/-- What holds of the first node of a forest, of all below it and of the rest holds of all. -/
theorem forall_occurs_cons {motive : Node → Prop} {first : Node} {rest : List Node}
    (h_first : motive first) (h_below : ∀ node, Occurs first.children node → motive node)
    (h_rest : ∀ node, Occurs rest node → motive node) (node : Node)
    (h : Occurs (first :: rest) node) : motive node := by
  have h_cases : node = first ∨ Occurs first.children node ∨ Occurs rest node := by
    induction h with
    | root h_mem =>
      rcases List.mem_cons.mp h_mem with h_eq | h_rest
      · exact .inl h_eq
      · exact .inr (.inr (.root h_rest))
    | child _ h_mem ih =>
      rcases ih with rfl | h_below | h_rest
      · exact .inr (.inl (.root h_mem))
      · exact .inr (.inl (.child h_below h_mem))
      · exact .inr (.inr (.child h_rest h_mem))
  rcases h_cases with rfl | h_node | h_node
  · exact h_first
  · exact h_below node h_node
  · exact h_rest node h_node

end Markup
end PageObjects
