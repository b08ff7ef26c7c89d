/-
  PageObjects.Proofs.Markup.Rereading

  A written forest is read back: `parse_render`. The tokens of siblings are read one
  node after the other, and every node ends up beside the ones before it.

    * `forest_induction` follows the siblings and what lies below them.
    * `writable_of_mem_tokensOf`, `apart_tokensOf_append`: the tokens of a forest can
      be written and read back.
    * `foldl_add_tokensOf`: reading the tokens of some siblings adds the siblings.
      Where an end tag is left out, the element is still open when its next sibling
      starts; `openTag_holding` says that this start tag closes it.
-/

import PageObjects.Proofs.Markup.Lexing
import PageObjects.Proofs.Markup.Reading

namespace PageObjects
namespace Markup

-- ============================================================================
-- Parts of a forest
-- ============================================================================

/-- Induction over siblings: an element is reached with what is known of its children. -/
theorem forest_induction {motive : List Node → Prop} (nil : motive [])
    (text : ∀ content rest, motive rest → motive (.text content :: rest))
    (comment : ∀ content rest, motive rest → motive (.comment content :: rest))
    (element : ∀ tag attributes children rest, motive children → motive rest →
      motive (.element tag attributes children :: rest)) : ∀ forest, motive forest
  | [] => nil
  | .text content :: rest => text content rest (forest_induction nil text comment element rest)
  | .comment content :: rest =>
    comment content rest (forest_induction nil text comment element rest)
  | .element tag attributes children :: rest =>
    element tag attributes children rest (forest_induction nil text comment element children)
      (forest_induction nil text comment element rest)

/-- What occurs in a part of a forest occurs in the forest. -/
theorem Occurs.of_forall_mem {part forest : List Node} {node : Node} (h : Occurs part node)
    (h_part : ∀ root ∈ part, Occurs forest root) : Occurs forest node := by
  induction h with
  | root h_mem => exact h_part _ h_mem
  | child _ h_mem ih => exact .child ih h_mem

/-- A part of a writable forest is writable. -/
theorem Writable.of_forall_mem {part forest : List Node} (h : Writable forest)
    (h_part : ∀ root ∈ part, Occurs forest root) (h_apart : TextsApart part) : Writable part :=
  ⟨h_apart, fun _ h_node => h.nodes _ (h_node.of_forall_mem h_part)⟩

theorem Writable.head {node : Node} {rest : List Node} (h : Writable (node :: rest)) :
    node.IsWritable :=
  h.nodes node (.root List.mem_cons_self)

theorem Writable.rest {node : Node} {rest : List Node} (h : Writable (node :: rest)) :
    Writable rest :=
  h.of_forall_mem (fun _ h_mem => .root (List.mem_cons_of_mem _ h_mem))
    (List.isChain_cons.mp h.roots_apart).2

theorem Writable.below {tag : String} {attributes : List Attribute} {children rest : List Node}
    (h : Writable (.element tag attributes children :: rest)) : Writable children :=
  h.of_forall_mem (fun _ h_mem => .child (.root List.mem_cons_self) h_mem)
    (WritableElement.children_apart h.head)

variable {omitted : Place → Bool} {place : Place} {position : Nat} {endOmitted : Bool}
  {tag : String} {attributes : List Attribute} {children rest : List Node}

/-- An element ends where its next sibling starts only if that is an element with such a tag. -/
theorem Node.exists_of_endedBy (h : (Node.element tag attributes children).endedBy rest = true) :
    ∃ next nextAttributes below others,
      rest = .element next nextAttributes below :: others ∧ Ends next tag := by
  simp only [Node.endedBy] at h
  split at h
  · exact ⟨_, _, _, _, rfl, of_decide_eq_true h⟩
  · cases h

-- ============================================================================
-- The tokens of a forest
-- ============================================================================

theorem head?_tokensOf (node : Node) :
    ∃ token ∈ (tokensOf omitted place position (node :: rest)).head?,
      token.isText = node.isText := by
  cases node with
  | text content => exact ⟨_, rfl, rfl⟩
  | comment content => exact ⟨_, rfl, rfl⟩
  | element tag attributes children => exact ⟨_, rfl, rfl⟩

/-- Every token of a writable forest can be written. -/
theorem writable_of_mem_tokensOf {forest : List Node} (h : Writable forest) :
    ∀ token ∈ tokensOf omitted place position forest, token.Writable := by
  induction forest using forest_induction generalizing place position with
  | nil => exact fun _ h_mem => absurd h_mem List.not_mem_nil
  | text content rest ih =>
    refine List.forall_mem_cons.mpr ⟨⟨escape_ne_nil ?_, not_mem_escape (by decide) _⟩, ih h.rest⟩
    intro h_nil
    exact h.head (String.toList_eq_nil_iff.mp h_nil)
  | comment content rest ih =>
    exact List.forall_mem_cons.mpr ⟨h.head, ih h.rest⟩
  | element tag attributes children rest ih_children ih_rest =>
    have h_element : WritableElement tag attributes children := h.head
    have h_start : (Token.startTag tag attributes false).Writable :=
      ⟨h_element.tag_name, h_element.attributes_sound, h_element.attribute_names⟩
    refine List.forall_mem_append.mpr ⟨List.forall_mem_cons.mpr ⟨h_start, ?_⟩, ih_rest h.rest⟩
    split
    · exact fun _ h_mem => absurd h_mem List.not_mem_nil
    · refine List.forall_mem_append.mpr ⟨ih_children h.below, ?_⟩
      split
      · exact fun _ h_mem => absurd h_mem List.not_mem_nil
      · exact List.forall_mem_singleton.mpr h_element.tag_name

/-- No two texts stand side by side. -/
def Token.Apart (tokens : List Token) : Prop :=
  tokens.IsChain fun a b => ¬(a.isText = true ∧ b.isText = true)

theorem Token.Apart.cons {token : Token} {tokens : List Token} (h : Apart tokens)
    (h_head : ∀ next ∈ tokens.head?, ¬(token.isText = true ∧ next.isText = true)) :
    Apart (token :: tokens) :=
  List.isChain_cons.mpr ⟨h_head, h⟩

theorem Token.Apart.cons_of_not_text {token : Token} {tokens : List Token} (h : Apart tokens)
    (h_token : token.isText = false) : Apart (token :: tokens) := by
  refine h.cons fun _ _ h_both => ?_
  rw [h_token] at h_both
  cases h_both.1

/-- The texts of a forest stay apart as tokens, in front of a token that is no text. -/
theorem apart_tokensOf_append {forest : List Node} (h : Writable forest) {tail : List Token}
    (h_tail : Token.Apart tail) (h_head : ∀ token ∈ tail.head?, token.isText = false) :
    Token.Apart (tokensOf omitted place position forest ++ tail) := by
  induction forest using forest_induction generalizing place position tail with
  | nil => exact h_tail
  | text content rest ih =>
    refine (ih h.rest h_tail h_head).cons fun next h_next h_both => ?_
    cases rest with
    | nil =>
      rw [h_head next h_next] at h_both
      cases h_both.2
    | cons node rest =>
      obtain ⟨token, h_token, h_text⟩ : ∃ token ∈ (tokensOf omitted place (position + 1)
          (node :: rest)).head?, token.isText = node.isText := head?_tokensOf node
      obtain rfl : token = next := by
        rw [List.head?_append, Option.mem_def.mp h_token] at h_next
        exact Option.some.inj h_next
      exact (List.isChain_cons.mp h.roots_apart).1 node rfl ⟨rfl, h_text ▸ h_both.2⟩
  | comment content rest ih => exact (ih h.rest h_tail h_head).cons_of_not_text rfl
  | element tag attributes children rest ih_children ih_rest =>
    have h_rest : Token.Apart (tokensOf omitted place (position + 1) rest ++ tail) :=
      ih_rest h.rest h_tail h_head
    rw [tokensOf, Node.tokens, List.append_assoc, List.cons_append]
    refine Token.Apart.cons_of_not_text ?_ rfl
    split
    · exact h_rest
    · rw [List.append_assoc]
      split
      · -- the end tag is left out, so a start tag follows
        rename_i h_omitted
        obtain ⟨next, _, _, _, rfl, -⟩ :=
          Node.exists_of_endedBy (Bool.and_eq_true_iff.mp h_omitted).2
        refine ih_children h.below h_rest fun token h_token => ?_
        obtain rfl := Option.some.inj h_token
        rfl
      · refine ih_children h.below (h_rest.cons_of_not_text rfl) fun token h_token => ?_
        obtain rfl := Option.some.inj h_token
        rfl

-- ============================================================================
-- Reading the tokens
-- ============================================================================

namespace Forest

variable {forest : Forest} {e : OpenElement}

/-- The forest with one more open element. -/
def holding (e : OpenElement) (forest : Forest) : Forest :=
  { forest with opened := e :: forest.opened }

theorem onSiblings_onSiblings (f g : List Node → List Node) (forest : Forest) :
    (forest.onSiblings f).onSiblings g = forest.onSiblings (g ∘ f) := by
  obtain ⟨roots, opened⟩ := forest
  cases opened with
  | nil => rfl
  | cons e outer => rfl

/-- An end tag closes the innermost open element, if it has its name. -/
theorem closeTag_holding (e : OpenElement) (forest : Forest) :
    (forest.holding e).closeTag e.tag = forest.push e.close := by
  have h_tags : (forest.holding e).openTags = e.tag :: forest.openTags := rfl
  rw [closeTag_of_mem (h_tags ▸ List.mem_cons_self), h_tags, List.idxOf_cons_self]
  rfl

theorem closeFor_eq_openTags (tag : String) (forest : Forest) :
    forest.closeFor tag
      = forest.closeInner (forest.openTags.takeWhile (implicitlyClosedBy tag).contains).length := by
  rw [closeFor, openTags, List.takeWhile_map, List.length_map]
  rfl

/-- A start tag closes nothing if it does not close the innermost open element. -/
theorem closeFor_eq_self (h : ∀ outer ∈ forest.openTags.head?, outer ∉ implicitlyClosedBy tag) :
    forest.closeFor tag = forest := by
  rw [closeFor_eq_openTags]
  cases h_tags : forest.openTags with
  | nil => rfl
  | cons outer others =>
    have h_not : ¬(implicitlyClosedBy tag).contains outer = true := fun h_mem =>
      h outer (by rw [h_tags]; rfl) (List.contains_iff_mem.mp h_mem)
    rw [List.takeWhile_cons_of_neg h_not]
    rfl

/-- A start tag that closes the innermost open element finds the forest as if its end tag had been
    there. -/
theorem openTag_holding (h : e.tag ∈ implicitlyClosedBy tag) (attributes : List Attribute)
    (selfClosing : Bool) (forest : Forest) :
    (forest.holding e).openTag tag attributes selfClosing
      = (forest.push e.close).openTag tag attributes selfClosing := by
  have h_tags : (forest.holding e).openTags = e.tag :: forest.openTags := rfl
  have h_push : (forest.push e.close).openTags = forest.openTags := openTags_onSiblings _ _
  have h_close : (forest.holding e).closeFor tag = (forest.push e.close).closeFor tag := by
    rw [closeFor_eq_openTags, closeFor_eq_openTags, h_tags, h_push,
      List.takeWhile_cons_of_pos (List.contains_iff_mem.mpr h)]
    rfl
  by_cases h_leaf : (selfClosing || voidTags.contains tag) = true
  · rw [openTag_eq_push h_leaf, openTag_eq_push h_leaf, h_close]
  · rw [openTag_eq_opening h_leaf, openTag_eq_opening h_leaf, h_close]

/-- The tokens of an element add it; without its end tag it is still open, unless it is void. -/
theorem foldl_add_element
    (h_kept : ∀ outer ∈ forest.openTags.head?, outer ∉ implicitlyClosedBy tag)
    (h_void : tag ∈ voidTags → children = [])
    (h_below : (tokensOf omitted place 0 children).foldl add (forest.opening tag attributes)
      = (forest.opening tag attributes).onSiblings (children.reverse ++ ·)) :
    ((Node.element tag attributes children).tokens omitted place endOmitted).foldl add forest
      = if endOmitted = true ∧ tag ∉ voidTags then
          forest.holding ⟨tag, attributes, children.reverse⟩
        else forest.push (.element tag attributes children) := by
  have h_closed := closeFor_eq_self h_kept
  rw [Node.tokens, List.foldl_cons]
  show List.foldl add (forest.openTag tag attributes false) _ = _
  by_cases h_tag : tag ∈ voidTags
  · have h_leaf : (false || voidTags.contains tag) = true :=
      (Bool.false_or _).trans (List.contains_iff_mem.mpr h_tag)
    rw [openTag_eq_push h_leaf, h_closed, if_pos h_tag, if_neg fun h_both => h_both.2 h_tag,
      h_void h_tag]
    rfl
  · have h_open : ¬(false || voidTags.contains tag) = true := by
      rw [Bool.false_or, List.contains_iff_mem]
      exact h_tag
    have h_held : (forest.opening tag attributes).onSiblings (children.reverse ++ ·)
        = forest.holding ⟨tag, attributes, children.reverse⟩ := by
      show forest.holding ⟨tag, attributes, children.reverse ++ []⟩ = _
      rw [List.append_nil]
    rw [openTag_eq_opening h_open, h_closed, if_neg h_tag, List.foldl_append, h_below, h_held]
    cases endOmitted with
    | true => rw [if_pos rfl, if_pos ⟨rfl, h_tag⟩, List.foldl_nil]
    | false =>
      rw [if_neg Bool.false_ne_true, if_neg fun h_both => Bool.false_ne_true h_both.1,
        List.foldl_cons, List.foldl_nil]
      have h_end := closeTag_holding ⟨tag, attributes, children.reverse⟩ forest
      rw [OpenElement.close, List.reverse_reverse] at h_end
      exact h_end

/-- Where the next sibling ends an element, it makes no difference whether its end tag is there. -/
theorem foldl_add_ended (h : (Node.element tag attributes children).endedBy rest = true) :
    (tokensOf omitted place position rest).foldl add
        (forest.holding ⟨tag, attributes, children.reverse⟩)
      = (tokensOf omitted place position rest).foldl add
        (forest.push (.element tag attributes children)) := by
  obtain ⟨next, nextAttributes, below, others, rfl, h_ends⟩ := Node.exists_of_endedBy h
  have h_start := openTag_holding (e := ⟨tag, attributes, children.reverse⟩)
    (mem_implicitlyClosedBy_iff.mpr h_ends) nextAttributes false forest
  rw [OpenElement.close, List.reverse_reverse] at h_start
  rw [tokensOf, Node.tokens, List.cons_append, List.foldl_cons, List.foldl_cons]
  show List.foldl add (openTag next nextAttributes false _) _
    = List.foldl add (openTag next nextAttributes false _) _
  rw [h_start]

theorem onSiblings_push (node : Node) (rest : List Node) (forest : Forest) :
    (forest.push node).onSiblings (rest.reverse ++ ·)
      = forest.onSiblings ((node :: rest).reverse ++ ·) := by
  have h_joined : (rest.reverse ++ ·) ∘ (node :: ·) = ((node :: rest).reverse ++ ·) := by
    funext siblings
    rw [List.reverse_cons, List.append_assoc]
    rfl
  rw [push, onSiblings_onSiblings, h_joined]

/-- The forest takes siblings in as they are: no start tag among them closes the element around
    them, and no text at their head joins the text before. -/
structure Receives (forest : Forest) (nodes : List Node) : Prop where
  kept : ∀ outer ∈ forest.openTags.head?, ∀ inner attributes below,
    .element inner attributes below ∈ nodes → ¬Ends inner outer
  apart : ∀ node ∈ nodes.head?, node.isText = true → forest.lastText? = none

theorem Receives.push {node : Node} (h : forest.Receives (node :: rest))
    (h_apart : TextsApart (node :: rest)) : (forest.push node).Receives rest := by
  refine ⟨fun outer h_outer inner attributes below h_mem => ?_, fun next h_next h_text => ?_⟩
  · rw [Forest.push, openTags_onSiblings] at h_outer
    exact h.kept outer h_outer inner attributes below (List.mem_cons_of_mem _ h_mem)
  · refine lastText?_push ?_ forest
    cases node with
    | text content => exact absurd ⟨rfl, h_text⟩ ((List.isChain_cons.mp h_apart).1 next h_next)
    | comment content => rfl
    | element tag attributes children => rfl

theorem receives_opening (h : Writable (.element tag attributes children :: rest))
    (forest : Forest) : (forest.opening tag attributes).Receives children := by
  refine ⟨fun outer h_outer inner innerAttributes below h_mem => ?_, fun _ _ _ => rfl⟩
  obtain rfl : tag = outer := Option.some.inj h_outer
  exact WritableElement.not_ended h.head _ _ _ h_mem

theorem onSiblings_congr {f g : List Node → List Node} (h : f forest.siblings = g forest.siblings) :
    forest.onSiblings f = forest.onSiblings g := by
  obtain ⟨roots, opened⟩ := forest
  cases opened with
  | nil => exact congrArg (Forest.mk · []) h
  | cons e outer =>
    exact congrArg (fun children => Forest.mk roots ({ e with children } :: outer)) h

theorem addText_of_receives {content : String} (h : forest.Receives (.text content :: rest)) :
    forest.addText content = forest.push (.text content) := by
  have h_last : headText? forest.siblings = none := h.apart (.text content) rfl rfl
  refine onSiblings_congr ?_
  rcases joinText_cases content forest.siblings with ⟨_, _, h_siblings, -⟩ | ⟨-, h_join⟩
  · rw [h_siblings] at h_last
    cases h_last
  · exact h_join

/-- Reading the tokens of some siblings adds them. -/
theorem foldl_add_tokensOf {nodes : List Node} (h : Writable nodes)
    (h_forest : forest.Receives nodes) :
    (tokensOf omitted place position nodes).foldl add forest
      = forest.onSiblings (nodes.reverse ++ ·) := by
  induction nodes using forest_induction generalizing forest place position with
  | nil =>
    obtain ⟨roots, opened⟩ := forest
    cases opened with
    | nil => rfl
    | cons e outer => rfl
  | text content rest ih =>
    have h_join : forest.add (.text (escape content.toList)) = forest.push (.text content) := by
      rw [add, decodeChars_escape, String.ofList_toList, addText_of_receives h_forest]
    rw [tokensOf, Node.tokens, List.singleton_append, List.foldl_cons, h_join, ← onSiblings_push]
    exact ih h.rest (h_forest.push h.roots_apart)
  | comment content rest ih =>
    have h_join : forest.add (.comment content.toList) = forest.push (.comment content) := by
      rw [add, String.ofList_toList]
    rw [tokensOf, Node.tokens, List.singleton_append, List.foldl_cons, h_join, ← onSiblings_push]
    exact ih h.rest (h_forest.push h.roots_apart)
  | element tag attributes children rest ih_children ih_rest =>
    have h_kept : ∀ outer ∈ forest.openTags.head?, outer ∉ implicitlyClosedBy tag :=
      fun outer h_outer h_mem => h_forest.kept outer h_outer _ _ _ List.mem_cons_self
        (mem_implicitlyClosedBy_iff.mp h_mem)
    have h_below : (tokensOf omitted (position :: place) 0 children).foldl add
        (forest.holding ⟨tag, attributes, []⟩) = _ :=
      ih_children h.below (receives_opening h forest)
    have h_rest : (tokensOf omitted place (position + 1) rest).foldl add
        (forest.push (.element tag attributes children)) = _ :=
      ih_rest h.rest (h_forest.push h.roots_apart)
    rw [tokensOf, List.foldl_append,
      foldl_add_element h_kept (WritableElement.void_childless h.head) h_below, ← onSiblings_push,
      ← h_rest]
    split
    · rename_i h_omitted
      exact foldl_add_ended (Bool.and_eq_true_iff.mp h_omitted.1).2
    · rfl

end Forest

-- ============================================================================
-- Written forests
-- ============================================================================

/-- A forest is read back from its text, whichever of the needless end tags are left out. -/
theorem parse_render {forest : List Node} (h : Writable forest) (omitted : Place → Bool) :
    parse (render omitted forest) = forest := by
  have h_apart : Token.Apart (tokensOf omitted [] 0 forest ++ []) :=
    apart_tokensOf_append h .nil fun _ h_mem => nomatch h_mem
  have h_empty : Forest.empty.Receives forest :=
    ⟨fun _ h_outer => (nomatch h_outer), fun _ _ _ => rfl⟩
  rw [List.append_nil] at h_apart
  rw [parse, render, String.toList_ofList,
    Token.ofChars_written (writable_of_mem_tokensOf h) h_apart,
    Forest.ofTokens, Forest.foldl_add_tokensOf h h_empty]
  show (forest.reverse ++ []).reverse = forest
  rw [List.append_nil, List.reverse_reverse]

/-- A row of two cells whose texts, attributes and comments need care. -/
def twoCells : List Node :=
  [.element "tr" [("title", "a \"b\" & <c>")] [
    .element "td" [] [.text "1 < 2 &amp; 3", .comment "--"],
    .element "td" [("data-e2e", "")] [.text "4"]]]

theorem writable_twoCells : Writable twoCells := by
  have h_td : IsTagName "td" :=
    ⟨Text.forall_mem_of_all (by decide), ⟨'t', rfl, rfl⟩, Text.forall_mem_of_all (by decide)⟩
  have h_row : WritableElement "tr" [("title", "a \"b\" & <c>")] [
      .element "td" [] [.text "1 < 2 &amp; 3", .comment "--"],
      .element "td" [("data-e2e", "")] [.text "4"]] := {
    tag_name :=
      ⟨Text.forall_mem_of_all (by decide), ⟨'t', rfl, rfl⟩, Text.forall_mem_of_all (by decide)⟩
    attributes_sound :=
      ⟨List.forall_mem_singleton.mpr (Text.forall_mem_of_all (by decide)), by decide⟩
    attribute_names :=
      List.forall_mem_singleton.mpr ⟨by decide, Text.forall_mem_of_all (by decide)⟩
    void_childless := by decide
    children_apart := .cons_cons (fun h_both => nomatch h_both.1) (.singleton _)
    not_ended := by
      intro inner _ _ h_mem
      simp only [List.mem_cons, Node.element.injEq, List.not_mem_nil, or_false] at h_mem
      rcases h_mem with ⟨rfl, -⟩ | ⟨rfl, -⟩ <;> decide }
  have h_first : WritableElement "td" [] [.text "1 < 2 &amp; 3", .comment "--"] := {
    tag_name := h_td
    attributes_sound := ⟨List.forall_mem_nil _, .nil⟩
    attribute_names := List.forall_mem_nil _
    void_childless := by decide
    children_apart := .cons_cons (fun h_both => nomatch h_both.2) (.singleton _)
    not_ended := fun _ _ _ h_mem => by simp at h_mem }
  have h_second : WritableElement "td" [("data-e2e", "")] [.text "4"] := {
    tag_name := h_td
    attributes_sound :=
      ⟨List.forall_mem_singleton.mpr (Text.forall_mem_of_all (by decide)), by decide⟩
    attribute_names :=
      List.forall_mem_singleton.mpr ⟨by decide, Text.forall_mem_of_all (by decide)⟩
    void_childless := by decide
    children_apart := .singleton _
    not_ended := fun _ _ _ h_mem => by simp at h_mem }
  have h_text : (Node.text "1 < 2 &amp; 3").IsWritable := by
    show _ ≠ _
    decide
  have h_number : (Node.text "4").IsWritable := by
    show _ ≠ _
    decide
  have h_comment : (Node.comment "--").IsWritable := fun h_inner =>
    absurd h_inner.length_le (by decide)
  exact ⟨.singleton _,
    forall_occurs_cons h_row
      (forall_occurs_cons h_first
        (forall_occurs_cons h_text forall_occurs_nil
          (forall_occurs_cons h_comment forall_occurs_nil forall_occurs_nil))
        (forall_occurs_cons h_second
          (forall_occurs_cons h_number forall_occurs_nil forall_occurs_nil) forall_occurs_nil))
      forall_occurs_nil⟩

/-- Two cells, the first one without its end tag. -/
theorem parse_render_twoCells : Writable twoCells
    ∧ render (fun place => place = [0, 0]) twoCells
      = "<tr title=\"a &quot;b&quot; &amp; &lt;c&gt;\"><td>1 &lt; 2 &amp;amp; 3<!------>"
        ++ "<td data-e2e=\"\">4</td></tr>"
    ∧ parse (render (fun place => place = [0, 0]) twoCells) = twoCells :=
  ⟨writable_twoCells, by decide +kernel, parse_render writable_twoCells _⟩

end Markup
end PageObjects
