/-
  PageObjects.Proofs.Markup.Order

  Document order. A node below an element stands at a path, the positions of the
  nodes on the way down to it, and paths are compared like words: an element comes
  before all that it contains, and what an earlier child contains comes before a later
  child. Searches and texts go through a tree by nested recursions of their own; here
  they are told from paths alone.

    * `Node.walk` lists the nodes of a tree with their paths: all of them
      (`mem_walk_iff`), in document order (`walk_sorted`).
    * `find?_eq_findSome?_walk`, `textContent_eq_join_walk`: searches and texts follow
      the walk.
    * `findSome?_eq_some_iff_of_sorted`: what it means to be the first in such a list.
    * `Element.search_ordered`: the first match in document order is found, and text is
      put together in the same order.
-/

import PageObjects.Markup.Node

namespace PageObjects
namespace Markup

namespace Node

-- ============================================================================
-- Paths
-- ============================================================================

/-- The node at a path: the positions, counted from 0, of the nodes on the way down to it. -/
def at? (node : Node) : List Nat → Option Node
  | [] => some node
  | i :: path => node.children[i]?.bind fun child => child.at? path

/-- The content of a text. -/
def text? : Node → Option String
  | .text content => some content
  | _ => none

theorem text?_eq_some_iff (node : Node) (content : String) :
    node.text? = some content ↔ node = .text content := by
  cases node <;> simp [text?]

/-- A node with the path that leads to it. -/
abbrev Place := List Nat × Node

/-- A place below a child, as seen from one level further out. -/
def Place.under (i : Nat) (place : Place) : Place :=
  (i :: place.1, place.2)

mutual

/-- The node and all below it. -/
def walk : Node → List Place
  | .element tag attributes children =>
    ([], .element tag attributes children) :: walkFrom 0 children
  | .text content => [([], .text content)]
  | .comment content => [([], .comment content)]

/-- The nodes of a forest, where the first tree has position `i`. -/
def walkFrom (i : Nat) : List Node → List Place
  | [] => []
  | node :: rest => (walk node).map (Place.under i) ++ walkFrom (i + 1) rest

end

/-- A walk begins with the node itself. -/
theorem walk_eq_cons (node : Node) : node.walk = ([], node) :: walkFrom 0 node.children := by
  cases node <;> rfl

-- ============================================================================
-- The walk
-- ============================================================================

mutual

/-- A walk comes to each node at its path. -/
theorem mem_walk_iff (node : Node) (path : List Nat) (below : Node) :
    (path, below) ∈ node.walk ↔ node.at? path = some below := by
  cases node with
  | element tag attributes children =>
    have h_children := mem_walkFrom_iff 0 children path below
    rw [walk, List.mem_cons, h_children]
    cases path with
    | nil => simp [at?, eq_comm]
    | cons i path =>
      rw [at?, Node.children]
      constructor
      · rintro (h_own | ⟨k, rest, h_path, h_found⟩)
        · cases h_own
        · obtain ⟨rfl, rfl⟩ := List.cons.inj h_path
          rwa [Nat.zero_add]
      · exact fun h_found => .inr ⟨i, path, by rw [Nat.zero_add], h_found⟩
  | text content => cases path <;> simp [walk, at?, Node.children, eq_comm]
  | comment content => cases path <;> simp [walk, at?, Node.children, eq_comm]

theorem mem_walkFrom_iff (i : Nat) (forest : List Node) (path : List Nat) (below : Node) :
    (path, below) ∈ walkFrom i forest
      ↔ ∃ k rest, path = (i + k) :: rest
        ∧ (forest[k]?.bind fun node => node.at? rest) = some below := by
  cases forest with
  | nil => simp [walkFrom]
  | cons node forest =>
    rw [walkFrom, List.mem_append, List.mem_map, mem_walkFrom_iff (i + 1) forest path below]
    constructor
    · rintro (⟨⟨rest, found⟩, h_mem, h_eq⟩ | ⟨k, rest, rfl, h_found⟩)
      · obtain ⟨rfl, rfl⟩ := Prod.mk.inj h_eq
        exact ⟨0, rest, rfl, (mem_walk_iff node rest found).mp h_mem⟩
      · exact ⟨k + 1, rest, by rw [Nat.add_right_comm, Nat.add_assoc], h_found⟩
    · rintro ⟨k, rest, rfl, h_found⟩
      cases k with
      | zero => exact .inl ⟨(rest, below), (mem_walk_iff node rest below).mpr h_found, rfl⟩
      | succ k => exact .inr ⟨k, rest, by rw [Nat.add_right_comm, Nat.add_assoc], h_found⟩

end

/-- Places in document order. -/
def Sorted (places : List Place) : Prop :=
  places.Pairwise fun place later => place.1 < later.1

mutual

theorem walk_sorted (node : Node) : Sorted node.walk := by
  cases node with
  | element tag attributes children =>
    rw [walk]
    refine List.Pairwise.cons ?_ (walkFrom_sorted 0 children)
    rintro ⟨path, below⟩ h_mem
    obtain ⟨k, rest, rfl, -⟩ := (mem_walkFrom_iff 0 children path below).mp h_mem
    exact List.nil_lt_cons (0 + k) rest
  | text content => exact List.pairwise_singleton _ _
  | comment content => exact List.pairwise_singleton _ _

theorem walkFrom_sorted (i : Nat) (forest : List Node) : Sorted (walkFrom i forest) := by
  cases forest with
  | nil => exact .nil
  | cons node forest =>
    rw [walkFrom]
    refine List.pairwise_append.mpr ⟨List.pairwise_map.mpr ?_, walkFrom_sorted (i + 1) forest, ?_⟩
    · exact (walk_sorted node).imp fun h_lt => List.cons_lt_cons_iff.mpr (.inr ⟨rfl, h_lt⟩)
    · rintro _ h_first ⟨path, below⟩ h_later
      obtain ⟨place, -, rfl⟩ := List.mem_map.mp h_first
      obtain ⟨k, rest, rfl, -⟩ := (mem_walkFrom_iff (i + 1) forest path below).mp h_later
      exact List.cons_lt_cons_iff.mpr (.inl (by omega))

end

-- ============================================================================
-- Searches and texts
-- ============================================================================

/-- What a search makes of a node. -/
def match? (p : Element → Bool) (place : Place) : Option Element :=
  place.2.element?.filter p

/-- The text at a place. -/
def textAt? (place : Place) : Option String :=
  place.2.text?

mutual

/-- A search gives the first match of a walk. -/
theorem find?_eq_findSome?_walk (p : Element → Bool) (node : Node) :
    find? p node = node.walk.findSome? (match? p) := by
  cases node with
  | element tag attributes children =>
    have h_children := findAll?_eq_findSome?_walkFrom p 0 children
    rw [find?, walk, List.findSome?_cons, match?, element?, Option.filter_some, h_children]
    split <;> rfl
  | text content => rfl
  | comment content => rfl

theorem findAll?_eq_findSome?_walkFrom (p : Element → Bool) (i : Nat) (forest : List Node) :
    findAll? p forest = (walkFrom i forest).findSome? (match? p) := by
  cases forest with
  | nil => rfl
  | cons node forest =>
    rw [findAll?, walkFrom, List.findSome?_append, List.findSome?_map,
      find?_eq_findSome?_walk p node, findAll?_eq_findSome?_walkFrom p (i + 1) forest]
    rfl

end

mutual

/-- The text of a node is that of a walk. -/
theorem textContent_eq_join_walk (node : Node) :
    textContent node = String.join (node.walk.filterMap textAt?) := by
  cases node with
  | element tag attributes children => exact textContentAll_eq_join_walkFrom 0 children
  | text content => simp [textContent, walk, textAt?, text?]
  | comment content => rfl

theorem textContentAll_eq_join_walkFrom (i : Nat) (forest : List Node) :
    textContentAll forest = String.join ((walkFrom i forest).filterMap textAt?) := by
  cases forest with
  | nil => rfl
  | cons node forest =>
    rw [textContentAll, walkFrom, List.filterMap_append, List.filterMap_map, String.join_append,
      textContent_eq_join_walk node, textContentAll_eq_join_walkFrom (i + 1) forest]
    rfl

end

/-- The first of some places in document order is the one with the least path. -/
theorem findSome?_eq_some_iff_of_sorted {β : Type} {places : List Place} (h_sorted : Sorted places)
    (f : Place → Option β) (b : β) :
    places.findSome? f = some b
      ↔ ∃ place ∈ places, f place = some b
        ∧ ∀ other ∈ places, other.1 < place.1 → f other = none := by
  rw [List.findSome?_eq_some_iff]
  constructor
  · rintro ⟨before, place, behind, rfl, h_found, h_before⟩
    obtain ⟨-, h_behind, -⟩ := List.pairwise_append.mp h_sorted
    have h_place : place ∈ before ++ place :: behind :=
      List.mem_append_right before List.mem_cons_self
    refine ⟨place, h_place, h_found, fun other h_mem h_lt => ?_⟩
    rcases List.mem_append.mp h_mem with h_mem | h_mem
    · exact h_before other h_mem
    · exfalso
      rcases List.mem_cons.mp h_mem with rfl | h_mem
      · exact List.lt_irrefl _ h_lt
      · exact List.lt_asymm h_lt ((List.pairwise_cons.mp h_behind).1 other h_mem)
  · rintro ⟨place, h_mem, h_found, h_first⟩
    obtain ⟨before, behind, rfl⟩ := List.append_of_mem h_mem
    obtain ⟨-, -, h_across⟩ := List.pairwise_append.mp h_sorted
    refine ⟨before, place, behind, rfl, h_found, fun other h_other => ?_⟩
    have h_lt := h_across other h_other place List.mem_cons_self
    exact h_first other (List.mem_append_left _ h_other) h_lt

end Node

-- ============================================================================
-- Elements
-- ============================================================================

namespace Element

variable {p : Element → Bool}

/-- The node at a path below an element, or the element itself. -/
def at? (e : Element) (path : List Nat) : Option Node :=
  e.toNode.at? path

theorem element?_eq_some_iff (node : Node) (e : Element) :
    node.element? = some e ↔ node = e.toNode := by
  cases node with
  | element tag attributes children =>
    obtain ⟨tag', attributes', children'⟩ := e
    simp [Node.element?, toNode]
  | text content => exact iff_of_false nofun nofun
  | comment content => exact iff_of_false nofun nofun

theorem match?_eq_some_iff (path : List Nat) (node : Node) (e : Element) :
    Node.match? p (path, node) = some e ↔ node = e.toNode ∧ p e = true := by
  rw [Node.match?, Option.filter_eq_some_iff, element?_eq_some_iff]

theorem match?_eq_none_iff (path : List Nat) (node : Node) :
    Node.match? p (path, node) = none ↔ ∀ e : Element, node = e.toNode → p e = false := by
  rw [Option.eq_none_iff_forall_ne_some]
  refine forall_congr' fun e => ?_
  rw [Ne, match?_eq_some_iff, not_and, Bool.not_eq_true]

/-- The places below an element are those of a walk through its children. -/
theorem mem_walkFrom_children_iff (e : Element) (path : List Nat) (below : Node) :
    (path, below) ∈ Node.walkFrom 0 e.children ↔ path ≠ [] ∧ e.at? path = some below := by
  have h_walk := Node.mem_walk_iff e.toNode path below
  rw [Node.walk_eq_cons, List.mem_cons] at h_walk
  constructor
  · intro h_mem
    obtain ⟨k, rest, rfl, -⟩ := (Node.mem_walkFrom_iff 0 e.children path below).mp h_mem
    exact ⟨List.cons_ne_nil _ _, h_walk.mp (.inr h_mem)⟩
  · rintro ⟨h_below, h_at⟩
    rcases h_walk.mpr h_at with h_own | h_mem
    · exact absurd (congrArg Prod.fst h_own) h_below
    · exact h_mem

-- ============================================================================
-- The text of an element
-- ============================================================================

/-- What follows on the first texts of an element begins with no text. -/
def EndsTexts (rest : List Node) : Prop :=
  ∀ first ∈ rest.head?, first.text? = none

theorem leadingText_eq_join {texts : List String} {rest : List Node} (h : EndsTexts rest) :
    leadingText (texts.map .text ++ rest) = String.join texts := by
  induction texts with
  | nil =>
    cases rest with
    | nil => rfl
    | cons node rest =>
      cases node with
      | text content => cases h _ rfl
      | element tag attributes children => rfl
      | comment content => rfl
  | cons content texts ih =>
    rw [List.map_cons, List.cons_append, leadingText, ih, String.join_cons]

theorem textContentAll_eq_join_append (texts : List String) (rest : List Node) :
    Node.textContentAll (texts.map .text ++ rest)
      = String.join texts ++ Node.textContentAll rest := by
  induction texts with
  | nil => exact String.empty_append.symm
  | cons content texts ih =>
    rw [List.map_cons, List.cons_append, Node.textContentAll, ih, String.join_cons,
      String.append_assoc]
    rfl

/-- Every list of nodes begins with some texts, be they none. -/
theorem exists_texts (nodes : List Node) :
    ∃ (texts : List String) (rest : List Node),
      nodes = texts.map .text ++ rest ∧ EndsTexts rest := by
  induction nodes with
  | nil => exact ⟨[], [], rfl, nofun⟩
  | cons node nodes ih =>
    cases h_text : node.text? with
    | none =>
      refine ⟨[], node :: nodes, rfl, fun first h_first => ?_⟩
      obtain rfl := Option.some.inj h_first
      exact h_text
    | some content =>
      obtain ⟨texts, rest, rfl, h_rest⟩ := ih
      obtain rfl := (Node.text?_eq_some_iff node content).mp h_text
      exact ⟨content :: texts, rest, rfl, h_rest⟩

/-- The text of an element is made of the texts that its children begin with. -/
theorem text_eq_some_iff (e : Element) (content : String) :
    e.text = some content
      ↔ content ≠ "" ∧ ∃ (texts : List String) (rest : List Node),
        e.children = texts.map .text ++ rest ∧ EndsTexts rest ∧ content = String.join texts := by
  obtain ⟨texts, rest, h_children, h_rest⟩ := exists_texts e.children
  have h_leading : leadingText e.children = String.join texts := by
    rw [h_children, leadingText_eq_join h_rest]
  have h_text : e.text = some content ↔ content ≠ "" ∧ content = leadingText e.children := by
    show (if (leadingText e.children).isEmpty then none else some (leadingText e.children))
      = some content ↔ _
    split <;> rename_i h_empty <;> rw [String.isEmpty_iff] at h_empty
    · exact iff_of_false nofun fun h => h.1 (h.2.trans h_empty)
    · refine Option.some_inj.trans ⟨?_, fun h => h.2.symm⟩
      rintro rfl
      exact ⟨h_empty, rfl⟩
  rw [h_text, h_leading]
  refine and_congr_right fun _ => ⟨fun h_eq => ⟨texts, rest, h_children, h_rest, h_eq⟩, ?_⟩
  rintro ⟨texts', rest', h_children', h_rest', rfl⟩
  rw [← h_leading, h_children', leadingText_eq_join h_rest']

/-- The text of an element comes first in all text below it. -/
theorem text_prefix (e : Element) {content : String} (h : e.text = some content) :
    content.toList <+: e.textContent.toList := by
  obtain ⟨-, texts, rest, h_children, -, rfl⟩ := (text_eq_some_iff e content).mp h
  rw [textContent, h_children, textContentAll_eq_join_append, String.toList_append]
  exact List.prefix_append _ _

-- ============================================================================
-- Order
-- ============================================================================

theorem find?_eq_some_iff (e : Element) (found : Element) :
    e.find? p = some found
      ↔ ∃ path ≠ [], e.at? path = some found.toNode ∧ p found = true
        ∧ ∀ earlier ≠ [], ∀ other : Element, earlier < path →
          e.at? earlier = some other.toNode → p other = false := by
  rw [find?, Node.findAll?_eq_findSome?_walkFrom p 0,
    Node.findSome?_eq_some_iff_of_sorted (Node.walkFrom_sorted 0 _)]
  constructor
  · rintro ⟨⟨path, node⟩, h_mem, h_match, h_first⟩
    obtain ⟨rfl, h_found⟩ := (match?_eq_some_iff path node found).mp h_match
    obtain ⟨h_below, h_at⟩ := (mem_walkFrom_children_iff e path _).mp h_mem
    refine ⟨path, h_below, h_at, h_found, fun earlier h_earlier other h_lt h_other => ?_⟩
    have h_none := h_first (earlier, other.toNode)
      ((mem_walkFrom_children_iff e earlier _).mpr ⟨h_earlier, h_other⟩) h_lt
    exact (match?_eq_none_iff earlier _).mp h_none other rfl
  · rintro ⟨path, h_below, h_at, h_found, h_first⟩
    refine ⟨(path, found.toNode), (mem_walkFrom_children_iff e path _).mpr ⟨h_below, h_at⟩,
      (match?_eq_some_iff path _ found).mpr ⟨rfl, h_found⟩, ?_⟩
    rintro ⟨earlier, node⟩ h_mem h_lt
    obtain ⟨h_earlier, h_other⟩ := (mem_walkFrom_children_iff e earlier node).mp h_mem
    refine (match?_eq_none_iff earlier node).mpr ?_
    rintro other rfl
    exact h_first earlier h_earlier other h_lt h_other

theorem find?_eq_none_iff (e : Element) :
    e.find? p = none
      ↔ ∀ path ≠ [], ∀ below : Element, e.at? path = some below.toNode → p below = false := by
  rw [find?, Node.findAll?_eq_findSome?_walkFrom p 0, List.findSome?_eq_none_iff]
  constructor
  · intro h_none path h_below below h_at
    have h_match := h_none (path, below.toNode)
      ((mem_walkFrom_children_iff e path _).mpr ⟨h_below, h_at⟩)
    exact (match?_eq_none_iff path _).mp h_match below rfl
  · rintro h_all ⟨path, node⟩ h_mem
    obtain ⟨h_below, h_at⟩ := (mem_walkFrom_children_iff e path node).mp h_mem
    refine (match?_eq_none_iff path node).mpr ?_
    rintro below rfl
    exact h_all path h_below below h_at

/-- The texts below an element with their paths. -/
def texts (e : Element) : List (List Nat × String) :=
  (Node.walkFrom 0 e.children).filterMap fun place => (Node.textAt? place).map (place.1, ·)

theorem texts_sorted (e : Element) : e.texts.Pairwise fun text later => text.1 < later.1 := by
  refine (Node.walkFrom_sorted 0 e.children).filterMap _ ?_
  intro place later h_lt text h_text text' h_text'
  obtain ⟨_, -, rfl⟩ := Option.map_eq_some_iff.mp h_text
  obtain ⟨_, -, rfl⟩ := Option.map_eq_some_iff.mp h_text'
  exact h_lt

theorem mem_texts_iff (e : Element) (path : List Nat) (content : String) :
    (path, content) ∈ e.texts ↔ e.at? path = some (.text content) := by
  rw [texts, List.mem_filterMap]
  constructor
  · rintro ⟨⟨place, node⟩, h_mem, h_text⟩
    obtain ⟨_, h_content, h_eq⟩ := Option.map_eq_some_iff.mp h_text
    obtain ⟨rfl, rfl⟩ := Prod.mk.inj h_eq
    obtain ⟨-, h_at⟩ := (mem_walkFrom_children_iff e place node).mp h_mem
    obtain rfl : node = .text _ := (Node.text?_eq_some_iff node _).mp h_content
    exact h_at
  · intro h_at
    have h_below : path ≠ [] := by
      rintro rfl
      cases h_at
    exact ⟨(path, .text content), (mem_walkFrom_children_iff e path _).mpr ⟨h_below, h_at⟩, rfl⟩

theorem textContent_eq_join (e : Element) : e.textContent = String.join (e.texts.map (·.2)) := by
  have h_texts : ∀ place : Node.Place, ((Node.textAt? place).map (place.1, ·)).map (·.2)
      = Node.textAt? place := by
    intro place
    rw [Option.map_map]
    exact Option.map_id'
  rw [textContent, Node.textContentAll_eq_join_walkFrom 0, texts, List.map_filterMap]
  simp only [h_texts]

/-- Searches and texts follow document order. A search finds the match with the least path, and
    nothing exactly if nothing below the element matches; all text is the texts below the element
    in the order of their paths, and begins with the text of the element if it has any. -/
theorem search_ordered (e : Element) :
    (∀ p found, e.find? p = some found
      ↔ ∃ path ≠ [], e.at? path = some found.toNode ∧ p found = true
        ∧ ∀ earlier ≠ [], ∀ other : Element, earlier < path →
          e.at? earlier = some other.toNode → p other = false)
    ∧ (∀ p, e.find? p = none
      ↔ ∀ path ≠ [], ∀ below : Element, e.at? path = some below.toNode → p below = false)
    ∧ (∃ texts : List (List Nat × String), texts.Pairwise (fun text later => text.1 < later.1)
      ∧ (∀ path content, (path, content) ∈ texts ↔ e.at? path = some (.text content))
      ∧ e.textContent = String.join (texts.map (·.2)))
    ∧ ∀ content, e.text = some content → content.toList <+: e.textContent.toList := by
  refine ⟨fun p found => e.find?_eq_some_iff found, fun p => e.find?_eq_none_iff, ?_, ?_⟩
  · exact ⟨e.texts, e.texts_sorted, e.mem_texts_iff, e.textContent_eq_join⟩
  · exact fun content => e.text_prefix

end Element
end Markup
end PageObjects
