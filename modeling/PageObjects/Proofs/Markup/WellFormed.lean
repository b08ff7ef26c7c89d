/-
  PageObjects.Proofs.Markup.WellFormed

  What every parsed forest looks like, whatever the text it was read from:
  `WellFormed` lists the properties, `wellFormed_parse` says that `parse` gives no
  other forests.

    * `Fits parent node` is what a finished node below `parent` keeps, and `Row` the
      same of a list of siblings; siblings may stand in either order.
    * `Forest.Sound` is the invariant of the reader: the finished roots and the
      children of every open element are rows, and no open element would have been
      closed by the one opened inside it.
    * `Token.Sound` is what the reader relies on: runs of text are not empty, names
      are in lower case, and no attribute name is given twice.

  Texts never stand side by side, but two texts of one parent may have an element
  between them: `parse_texts_apart_not_alone`.
-/

import Mathlib.Data.List.Chain
import PageObjects.Proofs.Markup.Building

namespace PageObjects
namespace Markup

-- ============================================================================
-- Well-formed forests
-- ============================================================================

/-- Whether a node is a run of text. -/
def Node.isText : Node → Bool
  | .text _ => true
  | _ => false

/-- Not both of two nodes are texts. -/
def NotBothText (a b : Node) : Prop :=
  ¬(a.isText = true ∧ b.isText = true)

/-- No two texts stand side by side. -/
def TextsApart (siblings : List Node) : Prop :=
  siblings.IsChain NotBothText

/-- The name has no capital letter of ASCII. -/
def IsLowerCase (name : String) : Prop :=
  ∀ c ∈ name.toList, c.isUpper = false

/-- The names of the attributes are in lower case, and each is given once. -/
def SoundAttributes (attributes : List Attribute) : Prop :=
  (∀ a ∈ attributes, IsLowerCase a.1) ∧ (attributes.map (·.1)).Nodup

/-- Whether the start tag `inner` ends an `outer` element that it stands in: cells end at the next
    cell, cells and rows at the next row, all of these and the parts of a table at the next part,
    items and options at the next one of their kind. -/
inductive Ends : (inner outer : String) → Prop
  | cell {inner outer : String} : inner ∈ ["td", "th"] → outer ∈ ["td", "th"] → Ends inner outer
  | row {outer : String} : outer ∈ ["td", "th", "tr"] → Ends "tr" outer
  | part {inner outer : String} : inner ∈ ["thead", "tbody", "tfoot"] →
      outer ∈ ["td", "th", "tr", "thead", "tbody", "tfoot"] → Ends inner outer
  | item : Ends "li" "li"
  | option : Ends "option" "option"

/-- The nodes of a forest, at any depth. -/
inductive Occurs (forest : List Node) : Node → Prop
  | root {node : Node} : node ∈ forest → Occurs forest node
  | child {tag : String} {attributes : List Attribute} {children : List Node} {node : Node} :
      Occurs forest (.element tag attributes children) → node ∈ children → Occurs forest node

/-- A forest as the reader makes it. -/
structure WellFormed (forest : List Node) : Prop where
  text_ne_empty : ∀ content, Occurs forest (.text content) → content ≠ ""
  roots_apart : TextsApart forest
  children_apart : ∀ tag attributes children,
    Occurs forest (.element tag attributes children) → TextsApart children
  void_childless : ∀ tag attributes children,
    Occurs forest (.element tag attributes children) → tag ∈ voidTags → children = []
  not_ended : ∀ tag attributes children inner innerAttributes below,
    Occurs forest (.element tag attributes children) →
    .element inner innerAttributes below ∈ children → ¬Ends inner tag
  tag_lower : ∀ tag attributes children,
    Occurs forest (.element tag attributes children) → IsLowerCase tag
  attributes_sound : ∀ tag attributes children,
    Occurs forest (.element tag attributes children) → SoundAttributes attributes

/-- The table of the reader lists exactly the elements that a start tag ends. -/
theorem mem_implicitlyClosedBy_iff {inner outer : String} :
    outer ∈ implicitlyClosedBy inner ↔ Ends inner outer := by
  constructor
  · intro h
    unfold implicitlyClosedBy at h
    split at h
    · exact .cell (by simpa using ‹inner = "td" ∨ inner = "th"›) h
    · split at h
      · exact ‹inner = "tr"› ▸ .row h
      · split at h
        · exact .part (by simpa using ‹inner = "thead" ∨ inner = "tbody" ∨ inner = "tfoot"›) h
        · split at h
          · rw [‹inner = "li"›, List.mem_singleton.1 h]
            exact .item
          · split at h
            · rw [‹inner = "option"›, List.mem_singleton.1 h]
              exact .option
            · cases h
  · intro h
    cases h with
    | cell h_inner h_outer =>
      rw [implicitlyClosedBy, if_pos (by simpa using h_inner)]
      exact h_outer
    | row h_outer => exact h_outer
    | part h_inner h_outer =>
      simp only [List.mem_cons, List.not_mem_nil, or_false] at h_inner
      rcases h_inner with rfl | rfl | rfl <;> exact h_outer
    | item => decide
    | option => decide

-- ============================================================================
-- Finished nodes
-- ============================================================================

/-- What a finished node below an element with the tag `parent`, or at the top, keeps. -/
inductive Fits : (parent : Option String) → Node → Prop
  | text {parent : Option String} {content : String} : content ≠ "" → Fits parent (.text content)
  | comment {parent : Option String} {content : String} : Fits parent (.comment content)
  | element {parent : Option String} {tag : String} {attributes : List Attribute}
      {children : List Node} :
      (∀ outer ∈ parent, outer ∉ implicitlyClosedBy tag) → IsLowerCase tag →
      SoundAttributes attributes → (tag ∈ voidTags → children = []) → TextsApart children →
      (∀ child ∈ children, Fits (some tag) child) →
      Fits parent (.element tag attributes children)

/-- What a list of finished siblings keeps. -/
structure Row (parent : Option String) (siblings : List Node) : Prop where
  apart : TextsApart siblings
  fits : ∀ node ∈ siblings, Fits parent node

namespace Row

variable {parent : Option String} {siblings : List Node}

theorem nil : Row parent [] :=
  ⟨.nil, fun _ h => absurd h List.not_mem_nil⟩

theorem reverse (h : Row parent siblings) : Row parent siblings.reverse := by
  refine ⟨List.isChain_reverse.2 (h.apart.imp ?_), fun node h_node => ?_⟩
  · intro a b h_ab h_both
    exact h_ab h_both.symm
  · exact h.fits node (List.mem_reverse.1 h_node)

/-- An element or a comment may join any row. -/
theorem cons {node : Node} (h : Row parent siblings) (h_node : Fits parent node)
    (h_text : node.isText = false) : Row parent (node :: siblings) := by
  refine ⟨List.isChain_cons.2 ⟨?_, h.apart⟩, List.forall_mem_cons.2 ⟨h_node, h.fits⟩⟩
  intro _ _ h_both
  rw [h_text] at h_both
  cases h_both.1

/-- Text that is not empty may join any row, as it joins a text at the head. -/
theorem joinText {content : String} (h : Row parent siblings) (h_content : content ≠ "") :
    Row parent (Forest.joinText content siblings) := by
  unfold Forest.joinText
  split
  · rename_i before rest
    have h_fits : Fits parent (.text (before ++ content)) := by
      refine .text fun h_empty => h_content ?_
      exact (String.append_eq_empty_iff.1 h_empty).2
    obtain ⟨h_head, h_tail⟩ := List.isChain_cons.1 h.apart
    exact ⟨List.isChain_cons.2 ⟨h_head, h_tail⟩,
      List.forall_mem_cons.2 ⟨h_fits, (List.forall_mem_cons.1 h.fits).2⟩⟩
  · rename_i h_no_text
    refine ⟨List.isChain_cons.2 ⟨?_, h.apart⟩, List.forall_mem_cons.2 ⟨.text h_content, h.fits⟩⟩
    intro head h_head h_both
    cases siblings with
    | nil => cases h_head
    | cons first rest =>
      obtain rfl : first = head := Option.some.inj h_head
      cases first with
      | text before => exact h_no_text before rest rfl
      | element tag attributes children => cases h_both.2
      | comment content => cases h_both.2

end Row

/-- Every node of a row, at any depth, fits below some element or at the top. -/
theorem Row.fits_of_occurs {siblings : List Node} {node : Node} (h : Row none siblings)
    (h_node : Occurs siblings node) : ∃ parent, Fits parent node := by
  induction h_node with
  | root h_mem => exact ⟨none, h.fits _ h_mem⟩
  | child _ h_mem ih =>
    obtain ⟨parent, h_fits⟩ := ih
    cases h_fits with
    | element _ _ _ _ _ h_children => exact ⟨_, h_children _ h_mem⟩

theorem Row.wellFormed {siblings : List Node} (h : Row none siblings) : WellFormed siblings where
  text_ne_empty content h_node := by
    obtain ⟨parent, h_fits⟩ := h.fits_of_occurs h_node
    cases h_fits with
    | text h_content => exact h_content
  roots_apart := h.apart
  children_apart tag attributes children h_node := by
    obtain ⟨parent, h_fits⟩ := h.fits_of_occurs h_node
    cases h_fits with
    | element _ _ _ _ h_apart _ => exact h_apart
  void_childless tag attributes children h_node := by
    obtain ⟨parent, h_fits⟩ := h.fits_of_occurs h_node
    cases h_fits with
    | element _ _ _ h_void _ _ => exact h_void
  not_ended tag attributes children inner innerAttributes below h_node h_inner := by
    obtain ⟨parent, h_fits⟩ := h.fits_of_occurs h_node
    cases h_fits with
    | element _ _ _ _ _ h_children =>
      cases h_children _ h_inner with
      | element h_parent _ _ _ _ _ =>
        intro h_ends
        exact h_parent tag rfl (mem_implicitlyClosedBy_iff.2 h_ends)
  tag_lower tag attributes children h_node := by
    obtain ⟨parent, h_fits⟩ := h.fits_of_occurs h_node
    cases h_fits with
    | element _ h_lower _ _ _ _ => exact h_lower
  attributes_sound tag attributes children h_node := by
    obtain ⟨parent, h_fits⟩ := h.fits_of_occurs h_node
    cases h_fits with
    | element _ _ h_attributes _ _ _ => exact h_attributes

-- ============================================================================
-- Tokens
-- ============================================================================

namespace Token

/-- What the reader of trees relies on. -/
def Sound : Token → Prop
  | .text run => run ≠ []
  | .comment _ => True
  | .declaration => True
  | .endTag _ => True
  | .startTag name attributes _ => IsLowerCase name ∧ SoundAttributes attributes

theorem isUpper_toLower (c : Char) : c.toLower.isUpper = false := by
  have h_A : 'A'.val.toNat = 65 := rfl
  have h_Z : 'Z'.val.toNat = 90 := rfl
  delta Char.toLower Char.isUpper
  split
  · rename_i h
    -- a capital letter moves behind the last capital letter
    have h_low := UInt32.le_iff_toNat_le.1 h.1
    have h_high := UInt32.le_iff_toNat_le.1 h.2
    have h_shift : ('a'.val - 'A'.val).toNat = 32 := rfl
    have h_moved : (c.val + ('a'.val - 'A'.val)).toNat = c.val.toNat + 32 := by
      rw [UInt32.toNat_add, h_shift]
      exact Nat.mod_eq_of_lt (by omega)
    refine decide_eq_false fun h_upper => ?_
    have h_le := UInt32.le_iff_toNat_le.1 h_upper.2
    rw [h_moved] at h_le
    omega
  · rename_i h
    exact decide_eq_false h

theorem isLowerCase_lowerName (s : List Char) : IsLowerCase (lowerName s) := by
  intro c h_c
  rw [lowerName, String.toList_ofList] at h_c
  obtain ⟨d, -, rfl⟩ := List.mem_map.1 h_c
  exact isUpper_toLower d

theorem soundAttributes_distinct (written : List Written) : SoundAttributes (distinct written) := by
  induction written with
  | nil => exact ⟨fun _ h => absurd h List.not_mem_nil, List.nodup_nil⟩
  | cons a rest ih =>
    obtain ⟨name, value⟩ := a
    obtain ⟨ih_lower, ih_nodup⟩ := ih
    refine ⟨List.forall_mem_cons.2 ⟨isLowerCase_lowerName name, ?_⟩, List.nodup_cons.2 ⟨?_, ?_⟩⟩
    · intro b h_b
      exact ih_lower b (List.mem_of_mem_filter h_b)
    · intro h_mem
      obtain ⟨b, h_b, h_eq⟩ := List.mem_map.1 h_mem
      have h_ne := (List.mem_filter.1 h_b).2
      rw [h_eq, bne_self_eq_false] at h_ne
      cases h_ne
    · exact ih_nodup.sublist ((List.filter_sublist).map _)

theorem sound_of_named? {isEnd : Bool} {s rest : List Char} {t : Token}
    (h : named? isEnd s = some (t, rest)) : t.Sound := by
  cases s with
  | nil => cases h
  | cons c s =>
    simp only [named?] at h
    split at h
    · obtain ⟨⟨slash, behind⟩, -, h_eq⟩ := Option.map_eq_some_iff.1 h
      obtain rfl := (Prod.mk.inj h_eq).1
      split
      · trivial
      · exact ⟨isLowerCase_lowerName _, soundAttributes_distinct _⟩
    · cases h

theorem sound_of_next? {s rest : List Char} {t : Token} (h : next? s = some (t, rest)) :
    t.Sound := by
  unfold next? at h
  split at h
  · obtain ⟨_, -, h_eq⟩ := Option.map_eq_some_iff.1 h
    obtain rfl := (Prod.mk.inj h_eq).1
    trivial
  · rename_i s _
    cases s with
    | nil => cases h
    | cons c s =>
      simp only [declaration?] at h
      split at h
      · split at h
        · obtain rfl := (Prod.mk.inj (Option.some.inj h)).1
          trivial
        · cases h
      · cases h
  · unfold tag? at h
    split at h
    · exact sound_of_named? h
    · exact sound_of_named? h
  · cases h

theorem sound_of_mem_consText {c : Char} {tokens : List Token} (h : ∀ t ∈ tokens, t.Sound) :
    ∀ t ∈ consText c tokens, t.Sound := by
  unfold consText
  split
  · exact List.forall_mem_cons.2 ⟨List.cons_ne_nil _ _, (List.forall_mem_cons.1 h).2⟩
  · exact List.forall_mem_cons.2 ⟨List.cons_ne_nil _ _, h⟩

/-- Every token of a text is sound. -/
theorem sound_of_mem_ofChars (s : List Char) : ∀ t ∈ ofChars s, t.Sound := by
  fun_induction ofChars s with
  | case1 => exact fun _ h => absurd h List.not_mem_nil
  | case2 c behind token rest h_next ih =>
    exact List.forall_mem_cons.2 ⟨sound_of_next? h_next, ih⟩
  | case3 c behind h_next ih => exact sound_of_mem_consText ih

end Token

/-- Decoding leaves no text empty. -/
theorem decodeChars_ne_nil {s : List Char} (h : s ≠ []) : decodeChars s ≠ [] := by
  cases s with
  | nil => exact absurd rfl h
  | cons c rest =>
    rw [decodeChars]
    split
    · split
      · exact List.cons_ne_nil _ _
      · exact List.cons_ne_nil _ _
    · exact List.cons_ne_nil _ _

-- ============================================================================
-- The invariant of the reader
-- ============================================================================

/-- What an open element keeps. -/
structure OpenElement.Sound (e : OpenElement) : Prop where
  lower : IsLowerCase e.tag
  attributes : SoundAttributes e.attributes
  not_void : e.tag ∉ voidTags
  row : Row (some e.tag) e.children

namespace Forest

/-- What the reader keeps at every step. -/
structure Sound (forest : Forest) : Prop where
  roots : Row none forest.roots
  opened : ∀ e ∈ forest.opened, e.Sound
  /-- No open element would have been closed by the one inside it. -/
  nested : forest.openTags.IsChain fun inner outer => outer ∉ implicitlyClosedBy inner

theorem sound_empty : empty.Sound :=
  ⟨.nil, fun _ h => absurd h List.not_mem_nil, .nil⟩

/-- The siblings that the next node joins are a row below the innermost open element. -/
theorem Sound.row {forest : Forest} (h : forest.Sound) :
    Row forest.openTags.head? forest.siblings := by
  obtain ⟨roots, opened⟩ := forest
  cases opened with
  | nil => exact h.roots
  | cons e outer => exact (h.opened e List.mem_cons_self).row

theorem Sound.onSiblings {f : List Node → List Node} {forest : Forest} (h : forest.Sound)
    (h_row : Row forest.openTags.head? (f forest.siblings)) : (forest.onSiblings f).Sound := by
  have h_tags := openTags_onSiblings f forest
  obtain ⟨roots, opened⟩ := forest
  cases opened with
  | nil => exact ⟨h_row, h.opened, h.nested⟩
  | cons e outer =>
    obtain ⟨h_e, h_outer⟩ := List.forall_mem_cons.1 h.opened
    refine ⟨h.roots, List.forall_mem_cons.2 ⟨?_, h_outer⟩, h_tags ▸ h.nested⟩
    exact ⟨h_e.lower, h_e.attributes, h_e.not_void, h_row⟩

theorem Sound.push {node : Node} {forest : Forest} (h : forest.Sound)
    (h_node : Fits forest.openTags.head? node) (h_text : node.isText = false) :
    (forest.push node).Sound :=
  h.onSiblings (h.row.cons h_node h_text)

theorem Sound.closeTop {forest : Forest} (h : forest.Sound) : forest.closeTop.Sound := by
  obtain ⟨roots, opened⟩ := forest
  cases opened with
  | nil => exact h
  | cons e outer =>
    obtain ⟨h_e, h_outer⟩ := List.forall_mem_cons.1 h.opened
    obtain ⟨h_head, h_nested⟩ := List.isChain_cons.1 h.nested
    have h_rest : Sound ⟨roots, outer⟩ := ⟨h.roots, h_outer, h_nested⟩
    refine h_rest.push (.element h_head h_e.lower h_e.attributes ?_ h_e.row.reverse.apart
      h_e.row.reverse.fits) rfl
    intro h_void
    exact absurd h_void h_e.not_void

theorem Sound.closeInner {forest : Forest} (n : Nat) (h : forest.Sound) :
    (forest.closeInner n).Sound :=
  closeInner_keeps (fun _ h_step => h_step.closeTop) n h

theorem Sound.openTag {tag : String} {attributes : List Attribute} {forest : Forest}
    (h : forest.Sound) (h_tag : IsLowerCase tag) (h_attributes : SoundAttributes attributes)
    (selfClosing : Bool) : (forest.openTag tag attributes selfClosing).Sound := by
  have h_closed : (forest.closeFor tag).Sound := h.closeInner _
  have h_head : ∀ outer ∈ (forest.closeFor tag).openTags.head?, outer ∉ implicitlyClosedBy tag :=
    fun _ h_outer => not_mem_of_head_closeFor h_outer
  by_cases h_leaf : (selfClosing || voidTags.contains tag) = true
  · rw [openTag_eq_push h_leaf]
    exact h_closed.push (.element h_head h_tag h_attributes (fun _ => rfl) .nil
      fun _ h_child => absurd h_child List.not_mem_nil) rfl
  · rw [openTag_eq_opening h_leaf]
    refine ⟨h_closed.roots,
      List.forall_mem_cons.2 ⟨⟨h_tag, h_attributes, ?_, .nil⟩, h_closed.opened⟩,
      List.isChain_cons.2 ⟨h_head, h_closed.nested⟩⟩
    intro h_void
    exact h_leaf (Bool.or_eq_true_iff.2 (Or.inr (List.contains_iff_mem.2 h_void)))

theorem Sound.closeTag {forest : Forest} (tag : String) (h : forest.Sound) :
    (forest.closeTag tag).Sound := by
  by_cases h_tag : tag ∈ forest.openTags
  · rw [closeTag_of_mem h_tag]
    exact h.closeInner _
  · rw [closeTag_of_not_mem h_tag]
    exact h

/-- Every sound token keeps the invariant. -/
theorem Sound.add {forest : Forest} {token : Token} (h : forest.Sound) (h_token : token.Sound) :
    (forest.add token).Sound := by
  cases token with
  | text run =>
    have h_content : String.ofList (decodeChars run) ≠ "" := by
      rw [Ne, String.ofList_eq_empty_iff]
      exact decodeChars_ne_nil h_token
    exact h.onSiblings (h.row.joinText h_content)
  | comment content => exact h.push .comment rfl
  | declaration => exact h
  | endTag name => exact h.closeTag name
  | startTag name attributes selfClosing => exact h.openTag h_token.1 h_token.2 selfClosing

/-- Every list of sound tokens keeps the invariant. -/
theorem Sound.foldl_add {forest : Forest} {tokens : List Token} (h : forest.Sound)
    (h_tokens : ∀ t ∈ tokens, t.Sound) : (tokens.foldl Forest.add forest).Sound := by
  induction tokens generalizing forest with
  | nil => exact h
  | cons t rest ih =>
    obtain ⟨h_t, h_rest⟩ := List.forall_mem_cons.1 h_tokens
    exact ih (h.add h_t) h_rest

theorem Sound.row_finish {forest : Forest} (h : forest.Sound) : Row none forest.finish :=
  (h.closeInner forest.opened.length).roots.reverse

end Forest

-- ============================================================================
-- Parsed forests
-- ============================================================================

/-- The roots of a parsed forest are a row. -/
theorem row_parse (markup : String) : Row none (parse markup) :=
  (Forest.sound_empty.foldl_add (Token.sound_of_mem_ofChars markup.toList)).row_finish

/-- Every parsed forest is well formed. -/
theorem wellFormed_parse (markup : String) : WellFormed (parse markup) := by
  have h_tokens := Token.sound_of_mem_ofChars markup.toList
  have h_sound := Forest.sound_empty.foldl_add h_tokens
  exact h_sound.row_finish.wellFormed

/-- Two texts of one forest may well have an element between them. -/
theorem parse_texts_apart_not_alone : ¬(parse "a<br>b").Pairwise NotBothText := by
  have h_parse : (parse "a<br>b").map Node.isText = [true, false, true] := by decide +kernel
  intro h_alone
  have h_map : ((parse "a<br>b").map Node.isText).Pairwise fun a b => ¬(a = true ∧ b = true) :=
    List.pairwise_map.2 h_alone
  rw [h_parse] at h_map
  revert h_map
  decide

end Markup
end PageObjects
