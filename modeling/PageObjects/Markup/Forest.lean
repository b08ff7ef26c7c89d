/-
  PageObjects.Markup.Forest

  Trees from tokens. The reader keeps the open elements, innermost first, and the
  finished roots. A start tag may close open elements implicitly, as a new row
  closes the cell and the row before it; an end tag closes everything up to the
  innermost open element of its name and is ignored where there is none. What is
  still open at the end is closed there, so every token list gives a forest.
-/

import PageObjects.Markup.Token

namespace PageObjects
namespace Markup

/-- The elements that have no content and no end tag. -/
def voidTags : List String :=
  ["area", "base", "br", "col", "embed", "hr", "img", "input", "link", "meta", "param", "source",
   "track", "wbr"]

/-- The tags that a start tag closes while they are the innermost open ones. -/
def implicitlyClosedBy (tag : String) : List String :=
  if tag = "td" ∨ tag = "th" then ["td", "th"]
  else if tag = "tr" then ["td", "th", "tr"]
  else if tag = "thead" ∨ tag = "tbody" ∨ tag = "tfoot" then
    ["td", "th", "tr", "thead", "tbody", "tfoot"]
  else if tag = "li" then ["li"]
  else if tag = "option" then ["option"]
  else []

/-- An open element; its children so far stand latest first. -/
structure OpenElement where
  tag : String
  attributes : List Attribute
  children : List Node

/-- The finished element. -/
def OpenElement.close (e : OpenElement) : Node :=
  .element e.tag e.attributes e.children.reverse

/-- A forest under construction: the finished roots, latest first, and the open elements,
    innermost first. -/
structure Forest where
  roots : List Node
  opened : List OpenElement

namespace Forest

/-- The forest without any node. -/
def empty : Forest := ⟨[], []⟩

/-- Changes the siblings, latest first, that the next node joins. -/
def onSiblings (f : List Node → List Node) (forest : Forest) : Forest :=
  match forest.opened with
  | [] => { forest with roots := f forest.roots }
  | e :: outer => { forest with opened := { e with children := f e.children } :: outer }

/-- Adds a finished node. -/
def push (node : Node) (forest : Forest) : Forest :=
  forest.onSiblings (node :: ·)

/-- Closes the innermost open element. -/
def closeTop (forest : Forest) : Forest :=
  match forest.opened with
  | [] => forest
  | e :: outer => { forest with opened := outer }.push e.close

/-- Closes the `n` innermost open elements. -/
def closeInner : Nat → Forest → Forest
  | 0, forest => forest
  | n + 1, forest => closeInner n forest.closeTop

/-- Text joins the text before it. -/
def joinText (content : String) : List Node → List Node
  | .text before :: siblings => .text (before ++ content) :: siblings
  | siblings => .text content :: siblings

/-- Adds a run of text. -/
def addText (content : String) (forest : Forest) : Forest :=
  forest.onSiblings (joinText content)

/-- Adds a start tag. -/
def openTag (tag : String) (attributes : List Attribute) (selfClosing : Bool)
    (forest : Forest) : Forest :=
  let closed := forest.opened.takeWhile fun e => (implicitlyClosedBy tag).contains e.tag
  let forest := forest.closeInner closed.length
  if selfClosing || voidTags.contains tag then forest.push (.element tag attributes [])
  else { forest with opened := ⟨tag, attributes, []⟩ :: forest.opened }

/-- Adds an end tag. -/
def closeTag (tag : String) (forest : Forest) : Forest :=
  match forest.opened.findIdx? fun e => e.tag == tag with
  | some depth => forest.closeInner (depth + 1)
  | none => forest

/-- Adds a token. -/
def add (forest : Forest) : Token → Forest
  | .text run => forest.addText (String.ofList (decodeChars run))
  | .comment content => forest.push (.comment (String.ofList content))
  | .declaration => forest
  | .endTag name => forest.closeTag name
  | .startTag name attributes selfClosing => forest.openTag name attributes selfClosing

/-- Closes all elements and gives the roots in document order. -/
def finish (forest : Forest) : List Node :=
  (forest.closeInner forest.opened.length).roots.reverse

/-- The forest of a list of tokens. -/
def ofTokens (tokens : List Token) : List Node :=
  (tokens.foldl add empty).finish

end Forest

/-- The top-level nodes of a text. -/
def parse (markup : String) : List Node :=
  Forest.ofTokens (Token.ofChars markup.toList)

/-- The first element at the top level of a text. -/
def parseElement? (markup : String) : Option Element :=
  (parse markup).findSome? Node.element?

end Markup
end PageObjects
