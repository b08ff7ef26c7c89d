/-
  PageObjects.Yaml.Cursor

  A place in a YAML text: what stands there, and how far it is from the start of the
  text and of the line. The operations that read lines give every line break as a
  newline, except the two separators of lines and paragraphs, which stay.
-/

namespace PageObjects
namespace Yaml

/-- A place in a text. -/
structure Cursor where
  rest : List Char
  index : Nat
  line : Nat
  column : Nat

namespace Cursor

/-- The start of a text. -/
def start (text : List Char) : Cursor :=
  ⟨text, 0, 0, 0⟩

/-! ## Character classes -/

/-- Whether `c` ends a line. -/
def isBreak (c : Char) : Bool :=
  c == '\n' || c == '\r' || c == '\x85' || c == '\u2028' || c == '\u2029'

/-- Whether `c` is a space or a tab. -/
def isBlank (c : Char) : Bool :=
  c == ' ' || c == '\t'

/-- Whether a text may hold `c`. -/
def isText (c : Char) : Bool :=
  let n := c.toNat
  n == 0x09 || n == 0x0a || n == 0x0d || (0x20 ≤ n && n ≤ 0x7e) || n == 0x85
    || (0xa0 ≤ n && n ≤ 0xfffd) || 0x10000 ≤ n

/-! ## Looking ahead -/

/-- The character `n` places ahead. -/
def ahead (c : Cursor) (n : Nat) : Option Char :=
  (c.rest.drop n).head?

/-- Whether the character `n` places ahead satisfies `p`. -/
def at? (c : Cursor) (n : Nat) (p : Char → Bool) : Bool :=
  match c.ahead n with
  | some x => p x
  | none => false

/-- Whether the next character is `x`. -/
def isAt (c : Cursor) (x : Char) : Bool :=
  c.at? 0 (· == x)

/-- Whether a word ends `n` places ahead: at a blank, a line break or the end. -/
def endsWord (c : Cursor) (n : Nat) : Bool :=
  match c.ahead n with
  | some x => isBlank x || isBreak x
  | none => true

/-- Whether a line ends here. -/
def endsLine (c : Cursor) : Bool :=
  match c.ahead 0 with
  | some x => isBreak x
  | none => true

/-- Whether nothing is left. -/
def atEnd (c : Cursor) : Bool :=
  c.rest.isEmpty

/-- Whether a mark between documents stands here. -/
def atDocumentMark (c : Cursor) : Bool :=
  c.column == 0 && c.endsWord 3
    && (['-', '-', '-'].isPrefixOf c.rest || ['.', '.', '.'].isPrefixOf c.rest)

/-! ## Moving on -/

/-- Passes one character that is no line break. -/
def skip (c : Cursor) : Cursor :=
  ⟨c.rest.drop 1, c.index + 1, c.line, c.column + 1⟩

/-- Passes `n` characters that are no line breaks. -/
def skipBy (n : Nat) (c : Cursor) : Cursor :=
  ⟨c.rest.drop n, c.index + n, c.line, c.column + n⟩

/-- Passes a line break; gives the character it stands for. -/
def readBreak (c : Cursor) : List Char × Cursor :=
  match c.rest with
  | '\r' :: '\n' :: rest => (['\n'], ⟨rest, c.index + 2, c.line + 1, 0⟩)
  | x :: rest =>
    if isBreak x then
      (if x = '\u2028' ∨ x = '\u2029' then [x] else ['\n'], ⟨rest, c.index + 1, c.line + 1, 0⟩)
    else ([], c)
  | [] => ([], c)

/-- Passes the characters that satisfy `p`, none of them a line break; gives them. -/
def readWhile (p : Char → Bool) (c : Cursor) : List Char × Cursor :=
  let read := c.rest.takeWhile p
  (read, c.skipBy read.length)

/-- Passes a comment, if one starts here. -/
def skipComment (c : Cursor) : Cursor :=
  if c.isAt '#' then (c.readWhile fun x => !isBreak x).2 else c

end Cursor

end Yaml
end PageObjects
