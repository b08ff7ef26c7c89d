/-
  PageObjects.Markup.Node

  Trees of markup: elements with attributes and children, runs of text, and
  comments.

    * `Node.outline` lists the nodes of a forest in document order with their
      depths.
    * `Element.text` is the text before the first child that is no text;
      `Element.textContent` is all text below the element in document order.
    * `Element.find?` is the first element below that satisfies a predicate, an
      element coming before what it contains.
-/

import PageObjects.Text.Blank

namespace PageObjects
namespace Markup

/-- A name with its value. -/
abbrev Attribute := String × String

/-- A node of a markup tree; the children are in document order. -/
inductive Node where
  | element (tag : String) (attributes : List Attribute) (children : List Node)
  | text (content : String)
  | comment (content : String)
deriving Repr

/-- An element of a markup tree. -/
structure Element where
  tag : String
  attributes : List Attribute
  children : List Node
deriving Repr

/-- A node without what lies below it. -/
inductive Item where
  | element (tag : String) (attributes : List Attribute)
  | text (content : String)
  | comment (content : String)
deriving DecidableEq, Repr

namespace Node

/-- The node as an element, if it is one. -/
def element? : Node → Option Element
  | .element tag attributes children => some ⟨tag, attributes, children⟩
  | _ => none

/-- The nodes right below a node. -/
def children : Node → List Node
  | .element _ _ children => children
  | _ => []

mutual

/-- The node and all below it in document order, with depths counted from `depth`. -/
def outline (depth : Nat) : Node → List (Nat × Item)
  | .element tag attributes children =>
    (depth, .element tag attributes) :: outlineAll (depth + 1) children
  | .text content => [(depth, .text content)]
  | .comment content => [(depth, .comment content)]

/-- The nodes of a forest in document order, with depths counted from `depth`. -/
def outlineAll (depth : Nat) : List Node → List (Nat × Item)
  | [] => []
  | node :: rest => outline depth node ++ outlineAll depth rest

end

mutual

/-- All text in the node, in document order. -/
def textContent : Node → String
  | .element _ _ children => textContentAll children
  | .text content => content
  | .comment _ => ""

/-- All text in a forest, in document order. -/
def textContentAll : List Node → String
  | [] => ""
  | node :: rest => textContent node ++ textContentAll rest

end

mutual

/-- The first element that satisfies `p`, the node itself included. -/
def find? (p : Element → Bool) : Node → Option Element
  | .element tag attributes children =>
    if p ⟨tag, attributes, children⟩ then some ⟨tag, attributes, children⟩
    else findAll? p children
  | _ => none

/-- The first element of a forest that satisfies `p`. -/
def findAll? (p : Element → Bool) : List Node → Option Element
  | [] => none
  | node :: rest => (find? p node).or (findAll? p rest)

end

end Node

namespace Element

/-- The element as a node. -/
def toNode (e : Element) : Node :=
  .element e.tag e.attributes e.children

/-- The value of the attribute `name`. -/
def attribute? (e : Element) (name : String) : Option String :=
  e.attributes.lookup name

/-- Whether `name` is one of the words of the `class` attribute. -/
def hasClass (e : Element) (name : String) : Bool :=
  match e.attribute? "class" with
  | some classes => (Text.words classes).contains name
  | none => false

/-- The run of texts at the head of a list of nodes. -/
def leadingText : List Node → String
  | .text content :: rest => content ++ leadingText rest
  | _ => ""

/-- The text before the first child that is no text, if there is any. -/
def text (e : Element) : Option String :=
  let content := leadingText e.children
  if content.isEmpty then none else some content

/-- All text below the element, in document order. -/
def textContent (e : Element) : String :=
  Node.textContentAll e.children

/-- The child elements, in document order. -/
def elements (e : Element) : List Element :=
  e.children.filterMap Node.element?

/-- The first element below this one, in document order, that satisfies `p`. -/
def find? (e : Element) (p : Element → Bool) : Option Element :=
  Node.findAll? p e.children

end Element

end Markup
end PageObjects
