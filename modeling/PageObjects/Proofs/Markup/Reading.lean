/-
  PageObjects.Proofs.Markup.Reading

  What a parsed forest says when it is read in document order: nothing of the text
  is lost, told twice or moved. The other side of `items_parse` never builds a tree.
  It takes the tokens of the text, leaves out the ignored ones (`effective`, which
  keeps no more than the tags that are open), and joins the runs of text that then
  stand side by side (`reading`).

    * `Forest.items` reads a forest under construction: the finished roots, then
      every open element, outermost first, with its children so far.
    * Closing an element moves nothing (`items_closeTop`); every other operation
      appends to what was read before, or joins text to its last item.
    * `items_finish_foldl_add` is the invariant carried along the tokens.
-/

import PageObjects.Proofs.Markup.Building

namespace PageObjects
namespace Markup

-- ============================================================================
-- Reading tokens
-- ============================================================================

namespace Token

/-- The tags that are open behind a token, innermost first. -/
def openAfter (opened : List String) : Token → List String
  | .startTag name _ selfClosing =>
    let kept := opened.dropWhile (implicitlyClosedBy name).contains
    if selfClosing || voidTags.contains name then kept else name :: kept
  | .endTag name => if name ∈ opened then opened.drop (opened.idxOf name + 1) else opened
  | _ => opened

/-- Declarations are ignored, and so are end tags that match no open element. -/
def isIgnored (opened : List String) : Token → Bool
  | .declaration => true
  | .endTag name => !opened.contains name
  | _ => false

/-- The tokens that are not ignored. -/
def effective (opened : List String) : List Token → List Token
  | [] => []
  | token :: rest =>
    if token.isIgnored opened then effective opened rest
    else token :: effective (token.openAfter opened) rest

/-- The text that is still open to more text, as an item. -/
def flush (pending : Option String) : List Item :=
  pending.toList.map .text

/-- The items that the tokens stand for, where runs of text side by side are one item. -/
def reading (pending : Option String) : List Token → List Item
  | [] => flush pending
  | .text run :: rest => reading (some (pending.getD "" ++ String.ofList (decodeChars run))) rest
  | .comment content :: rest => flush pending ++ .comment (String.ofList content) :: reading none rest
  | .startTag name attributes _ :: rest =>
    flush pending ++ .element name attributes :: reading none rest
  | .endTag _ :: rest => flush pending ++ reading none rest
  | .declaration :: rest => reading pending rest

end Token

-- ============================================================================
-- Reading trees
-- ============================================================================

/-- The nodes of a forest in document order, without their nesting. -/
def itemsOf (forest : List Node) : List Item :=
  (Node.outlineAll 0 forest).map (·.2)

mutual

theorem outline_map_snd (depth other : Nat) (node : Node) :
    (Node.outline depth node).map (·.2) = (Node.outline other node).map (·.2) := by
  cases node with
  | element tag attributes children =>
    simp only [Node.outline, List.map_cons]
    rw [outlineAll_map_snd (depth + 1) (other + 1) children]
  | text content => rfl
  | comment content => rfl

/-- What is read does not depend on the depth that is counted from. -/
theorem outlineAll_map_snd (depth other : Nat) (forest : List Node) :
    (Node.outlineAll depth forest).map (·.2) = (Node.outlineAll other forest).map (·.2) := by
  cases forest with
  | nil => rfl
  | cons node rest =>
    simp only [Node.outlineAll, List.map_append]
    rw [outline_map_snd depth other node, outlineAll_map_snd depth other rest]

end

theorem itemsOf_nil : itemsOf [] = [] := rfl

theorem itemsOf_cons (node : Node) (rest : List Node) :
    itemsOf (node :: rest) = itemsOf [node] ++ itemsOf rest := by
  simp only [itemsOf, Node.outlineAll, List.map_append, List.append_nil]

theorem itemsOf_append (left right : List Node) :
    itemsOf (left ++ right) = itemsOf left ++ itemsOf right := by
  induction left with
  | nil => rfl
  | cons node rest ih =>
    rw [List.cons_append, itemsOf_cons, ih, itemsOf_cons node rest, List.append_assoc]

theorem itemsOf_element (tag : String) (attributes : List Attribute) (children : List Node) :
    itemsOf [.element tag attributes children] = .element tag attributes :: itemsOf children := by
  simp only [itemsOf, Node.outlineAll, Node.outline, List.append_nil, List.map_cons]
  rw [outlineAll_map_snd 1 0]

namespace OpenElement

/-- The open element and its children so far, in document order. -/
def items (e : OpenElement) : List Item :=
  .element e.tag e.attributes :: itemsOf e.children.reverse

theorem itemsOf_close (e : OpenElement) : itemsOf [e.close] = e.items :=
  itemsOf_element _ _ _

end OpenElement

namespace Forest

/-- What was read so far, in document order. -/
def items (forest : Forest) : List Item :=
  itemsOf forest.roots.reverse ++ forest.opened.reverse.flatMap OpenElement.items

/-- The text at the head of some siblings. -/
def headText? : List Node → Option String
  | .text content :: _ => some content
  | _ => none

/-- The text that more text would join. -/
def lastText? (forest : Forest) : Option String :=
  headText? forest.siblings

/-- Text joins a text at the head of the siblings, or stands before the siblings as they are. -/
theorem joinText_cases (content : String) (siblings : List Node) :
    (∃ before rest, siblings = .text before :: rest
      ∧ joinText content siblings = .text (before ++ content) :: rest)
    ∨ (headText? siblings = none ∧ joinText content siblings = .text content :: siblings) := by
  match siblings with
  | [] => exact Or.inr ⟨rfl, rfl⟩
  | .text before :: rest => exact Or.inl ⟨before, rest, rfl, rfl⟩
  | .element _ _ _ :: _ => exact Or.inr ⟨rfl, rfl⟩
  | .comment _ :: _ => exact Or.inr ⟨rfl, rfl⟩

/-- What was read before the siblings that the next node joins. -/
def itemsBefore (forest : Forest) : List Item :=
  match forest.opened with
  | [] => []
  | e :: outer => items ⟨forest.roots, outer⟩ ++ [.element e.tag e.attributes]

theorem items_cons (roots : List Node) (e : OpenElement) (outer : List OpenElement) :
    items ⟨roots, e :: outer⟩ = items ⟨roots, outer⟩ ++ e.items := by
  simp only [items, List.reverse_cons, List.flatMap_append, List.flatMap_cons, List.flatMap_nil,
    List.append_nil, List.append_assoc]

theorem items_eq_append_siblings (forest : Forest) :
    forest.items = forest.itemsBefore ++ itemsOf forest.siblings.reverse := by
  obtain ⟨roots, opened⟩ := forest
  cases opened with
  | nil => simp only [items, itemsBefore, siblings, List.reverse_nil, List.flatMap_nil,
      List.append_nil, List.nil_append]
  | cons e outer =>
    rw [items_cons, itemsBefore, siblings, OpenElement.items, List.append_assoc]
    rfl

/-! ## What the operations add -/

theorem items_onSiblings (f : List Node → List Node) (forest : Forest) :
    (forest.onSiblings f).items = forest.itemsBefore ++ itemsOf (f forest.siblings).reverse := by
  rw [items_eq_append_siblings, siblings_onSiblings]
  obtain ⟨roots, opened⟩ := forest
  cases opened with
  | nil => rfl
  | cons e outer => rfl

theorem items_push (node : Node) (forest : Forest) :
    (forest.push node).items = forest.items ++ itemsOf [node] := by
  rw [push, items_onSiblings, List.reverse_cons, itemsOf_append, ← List.append_assoc,
    ← items_eq_append_siblings]

/-- Closing an element moves nothing. -/
theorem items_closeTop (forest : Forest) : forest.closeTop.items = forest.items := by
  obtain ⟨roots, opened⟩ := forest
  cases opened with
  | nil => rfl
  | cons e outer =>
    show (push e.close ⟨roots, outer⟩).items = _
    rw [items_push, OpenElement.itemsOf_close, items_cons]

theorem items_closeInner (n : Nat) (forest : Forest) :
    (forest.closeInner n).items = forest.items :=
  closeInner_keeps (P := fun closed => closed.items = forest.items)
    (fun closed h => (items_closeTop closed).trans h) n rfl

theorem items_opening (tag : String) (attributes : List Attribute) (forest : Forest) :
    (forest.opening tag attributes).items = forest.items ++ [.element tag attributes] :=
  items_cons forest.roots ⟨tag, attributes, []⟩ forest.opened

theorem items_openTag (tag : String) (attributes : List Attribute) (selfClosing : Bool)
    (forest : Forest) :
    (forest.openTag tag attributes selfClosing).items
      = forest.items ++ [.element tag attributes] := by
  by_cases h_leaf : (selfClosing || voidTags.contains tag) = true
  · rw [openTag_eq_push h_leaf, items_push, closeFor, items_closeInner, itemsOf_element,
      itemsOf_nil]
  · rw [openTag_eq_opening h_leaf, items_opening, closeFor, items_closeInner]

/-- Text joins the text that was read last, if more text may join it. -/
theorem items_addText {content : String} {forest : Forest} {read : List Item}
    (h : forest.items = read ++ Token.flush forest.lastText?) :
    (forest.addText content).items = read ++ [.text (forest.lastText?.getD "" ++ content)] := by
  rw [addText, items_onSiblings]
  rw [items_eq_append_siblings] at h
  rcases joinText_cases content forest.siblings with
    ⟨before, rest, h_siblings, h_join⟩ | ⟨h_none, h_join⟩
  · rw [lastText?, h_siblings, headText?] at h ⊢
    rw [h_siblings] at h_join
    rw [List.reverse_cons, itemsOf_append, ← List.append_assoc] at h
    rw [h_join, List.reverse_cons, itemsOf_append, ← List.append_assoc, List.append_cancel_right h]
    rfl
  · rw [lastText?, h_none] at h ⊢
    rw [h_join, List.reverse_cons, itemsOf_append, ← List.append_assoc, h, Option.getD_none,
      String.empty_append, Token.flush, Option.toList_none, List.map_nil, List.append_nil]
    rfl

/-! ## Text that is still open -/

theorem lastText?_addText (content : String) (forest : Forest) :
    (forest.addText content).lastText? = some (forest.lastText?.getD "" ++ content) := by
  rw [lastText?, lastText?, addText, siblings_onSiblings]
  rcases joinText_cases content forest.siblings with
    ⟨before, rest, h_siblings, h_join⟩ | ⟨h_none, h_join⟩
  · rw [h_join, h_siblings]
    rfl
  · rw [h_join, h_none, Option.getD_none, String.empty_append]
    rfl

/-- A finished element or a comment ends the text before it. -/
theorem lastText?_push {node : Node} (h : headText? [node] = none) (forest : Forest) :
    (forest.push node).lastText? = none := by
  rw [lastText?, push, siblings_onSiblings]
  cases node with
  | text content => cases h
  | element tag attributes children => rfl
  | comment content => rfl

theorem lastText?_closeTop_of_none {forest : Forest} (h : forest.lastText? = none) :
    forest.closeTop.lastText? = none := by
  obtain ⟨roots, opened⟩ := forest
  cases opened with
  | nil => exact h
  | cons e outer => exact lastText?_push rfl _

/-- Behind the end of an element, text does not join what stands before it. -/
theorem lastText?_closeInner_succ {forest : Forest} (n : Nat) (h : forest.openTags ≠ []) :
    (forest.closeInner (n + 1)).lastText? = none := by
  show (forest.closeTop.closeInner n).lastText? = none
  refine closeInner_keeps (P := fun closed => closed.lastText? = none)
    (fun _ h_none => lastText?_closeTop_of_none h_none) n ?_
  obtain ⟨roots, opened⟩ := forest
  cases opened with
  | nil => exact absurd rfl h
  | cons e outer => exact lastText?_push rfl _

theorem lastText?_openTag (tag : String) (attributes : List Attribute) (selfClosing : Bool)
    (forest : Forest) : (forest.openTag tag attributes selfClosing).lastText? = none := by
  by_cases h_leaf : (selfClosing || voidTags.contains tag) = true
  · rw [openTag_eq_push h_leaf]
    exact lastText?_push rfl _
  · rw [openTag_eq_opening h_leaf]
    rfl

/-! ## The open tags -/

theorem openTags_add (forest : Forest) (token : Token) :
    (forest.add token).openTags = token.openAfter forest.openTags := by
  cases token with
  | text run => exact openTags_onSiblings _ _
  | comment content => exact openTags_onSiblings _ _
  | declaration => rfl
  | endTag name =>
    show (forest.closeTag name).openTags = _
    by_cases h_name : name ∈ forest.openTags
    · rw [closeTag_of_mem h_name, openTags_closeInner, Token.openAfter, if_pos h_name]
    · rw [closeTag_of_not_mem h_name, Token.openAfter, if_neg h_name]
  | startTag name attributes selfClosing =>
    show (forest.openTag name attributes selfClosing).openTags = _
    rw [Token.openAfter, ← openTags_closeFor]
    by_cases h_leaf : (selfClosing || voidTags.contains name) = true
    · rw [openTag_eq_push h_leaf, if_pos h_leaf]
      exact openTags_onSiblings _ _
    · rw [openTag_eq_opening h_leaf, if_neg h_leaf]
      rfl

/-! ## Whole texts -/

/-- A token behind which no text is open adds its items to all that was read. -/
theorem items_eq_of_closed {forest next : Forest} {read added : List Item}
    (h : forest.items = read ++ Token.flush forest.lastText?) (h_last : next.lastText? = none)
    (h_items : next.items = forest.items ++ added) :
    next.items
      = (read ++ (Token.flush forest.lastText? ++ added)) ++ Token.flush next.lastText? := by
  rw [h_items, h, h_last, Token.flush, Token.flush, Option.toList_none, List.map_nil,
    List.append_nil, List.append_assoc]

/-- From a forest on whose items are `read` and the text that is still open, the tokens add what
    they stand for. -/
theorem items_finish_foldl_add (tokens : List Token) {forest : Forest} {read : List Item}
    (h : forest.items = read ++ Token.flush forest.lastText?) :
    itemsOf (tokens.foldl add forest).finish
      = read ++ Token.reading forest.lastText? (Token.effective forest.openTags tokens) := by
  induction tokens generalizing forest read with
  | nil =>
    have h_opened := opened_closeInner_length forest
    have h_items := items_closeInner forest.opened.length forest
    rw [items, h_opened, List.reverse_nil, List.flatMap_nil, List.append_nil] at h_items
    exact h_items.trans h
  | cons token rest ih =>
    have h_tags := openTags_add forest token
    rw [List.foldl_cons, Token.effective]
    cases token with
    | text run =>
      have h_last := lastText?_addText (String.ofList (decodeChars run)) forest
      have h_items : (forest.add (.text run)).items
          = read ++ Token.flush (forest.add (.text run)).lastText? := by
        rw [add, h_last]
        exact items_addText h
      have h_rest := ih h_items
      rw [h_tags] at h_rest
      rw [h_rest, add, h_last]
      rfl
    | comment content =>
      have h_last : (forest.add (.comment content)).lastText? = none := lastText?_push rfl _
      have h_rest := ih (items_eq_of_closed h h_last (items_push _ _))
      rw [h_last, h_tags] at h_rest
      rw [h_rest, List.append_assoc, List.append_assoc]
      rfl
    | declaration => exact ih h
    | endTag name =>
      by_cases h_name : name ∈ forest.openTags
      · have h_close : forest.add (.endTag name) = _ := closeTag_of_mem h_name
        have h_last : (forest.add (.endTag name)).lastText? = none := by
          rw [h_close]
          exact lastText?_closeInner_succ _ (List.ne_nil_of_mem h_name)
        have h_items : (forest.add (.endTag name)).items = forest.items ++ [] := by
          rw [h_close, items_closeInner, List.append_nil]
        have h_rest := ih (items_eq_of_closed h h_last h_items)
        have h_ignored : Token.isIgnored forest.openTags (.endTag name) = false := by
          simp [Token.isIgnored, h_name]
        rw [h_last, h_tags] at h_rest
        rw [h_rest, h_ignored, List.append_nil, List.append_assoc]
        rfl
      · have h_ignored : Token.isIgnored forest.openTags (.endTag name) = true := by
          simp [Token.isIgnored, h_name]
        rw [h_ignored, add, closeTag_of_not_mem h_name]
        exact ih h
    | startTag name attributes selfClosing =>
      have h_last : (forest.add (.startTag name attributes selfClosing)).lastText? = none :=
        lastText?_openTag _ _ _ _
      have h_rest := ih (items_eq_of_closed h h_last (items_openTag _ _ _ _))
      rw [h_last, h_tags] at h_rest
      rw [h_rest, List.append_assoc, List.append_assoc]
      rfl

end Forest

/-- Read in document order, a parsed forest is the start tags, the comments and the decoded runs of
    text in the order of the tokens. Two runs are one text exactly if only ignored tokens stand
    between them. -/
theorem items_parse (markup : String) :
    itemsOf (parse markup)
      = Token.reading none (Token.effective [] (Token.ofChars markup.toList)) := by
  have h_empty : Forest.empty.items = [] ++ Token.flush Forest.empty.lastText? := rfl
  exact Forest.items_finish_foldl_add (Token.ofChars markup.toList) h_empty

example : itemsOf (parse "a<!x>b</i>c<p>d</p>e")
    = [.text "abc", .element "p" [], .text "d", .text "e"] := by decide +kernel

end Markup
end PageObjects
