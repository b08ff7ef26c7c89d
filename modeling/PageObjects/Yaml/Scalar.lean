/-
  PageObjects.Yaml.Scalar

  The texts of scalars. A plain or quoted scalar may go over several lines; a
  single line break inside it becomes a space, and of several the first is dropped.
  A block scalar keeps its lines or folds them, and its header tells how its last
  line breaks count.
-/

import PageObjects.Text.Numeral
import PageObjects.Yaml.Cursor

namespace PageObjects
namespace Yaml

/-- How a scalar is written. -/
inductive ScalarStyle where
  | plain
  | quoted
  | literal
  | folded
deriving DecidableEq, Repr

/-! ## Gaps inside scalars -/

/-- The blanks and line breaks between two words of a scalar. -/
structure Gap where
  /-- Whether there is a line break. -/
  broken : Bool := false
  /-- The blanks before the first line break. -/
  blanks : List Char := []
  /-- The first line break. -/
  first : List Char := []
  /-- The other line breaks. -/
  others : List Char := []

/-- What a gap stands for in the text of a scalar. -/
def Gap.text (gap : Gap) : List Char :=
  if gap.broken then
    if gap.first = ['\n'] then if gap.others.isEmpty then [' '] else gap.others
    else gap.first ++ gap.others
  else gap.blanks

/-- Reads a gap. A tab is an error in the indentation of a line, which goes up to column
    `indent`. -/
def readGap? (indent : Nat) : (fuel : Nat) → Gap → Cursor → Option (Gap × Cursor)
  | 0, gap, c => some (gap, c)
  | fuel + 1, gap, c =>
    match c.ahead 0 with
    | none => some (gap, c)
    | some x =>
      if Cursor.isBlank x then
        if gap.broken then
          if x = '\t' ∧ c.column < indent then none else readGap? indent fuel gap c.skip
        else readGap? indent fuel { gap with blanks := gap.blanks ++ [x] } c.skip
      else if Cursor.isBreak x then
        let (br, c) := c.readBreak
        if gap.broken then readGap? indent fuel { gap with others := gap.others ++ br } c
        else readGap? indent fuel { gap with broken := true, blanks := [], first := br } c
      else some (gap, c)

/-! ## Plain scalars -/

/-- Whether `x` ends a word or delimits parts of a flow collection. -/
def isFlowMark (x : Char) : Bool :=
  x == ',' || x == '[' || x == ']' || x == '\x7b' || x == '\x7d'

/-- Reads the characters of a plain scalar up to a blank, a line break or a mark. -/
def plainWord? (inFlow : Bool) : (fuel : Nat) → Cursor → Option (List Char × Cursor)
  | 0, c => some ([], c)
  | fuel + 1, c =>
    match c.ahead 0 with
    | none => some ([], c)
    | some x =>
      if Cursor.isBlank x || Cursor.isBreak x then some ([], c)
      else if inFlow && x == ':' && c.at? 1 (fun y => isFlowMark y || y == '?') then none
      else if (x == ':' && c.endsWord 1) || (inFlow && isFlowMark x) then some ([], c)
      else (plainWord? inFlow fuel c.skip).map fun (word, c) => (x :: word, c)

/-- Reads a plain scalar behind its text so far and a gap; tells whether it ends behind a line
    break. -/
def plainFrom? (inFlow : Bool) (indent : Nat) :
    (fuel : Nat) → List Char → Gap → Cursor → Option (List Char × Bool × Cursor)
  | 0, _, _, _ => none
  | fuel + 1, text, gap, c =>
    if c.atDocumentMark || c.isAt '#' then some (text, gap.broken, c)
    else do
      let (word, c) ← plainWord? inFlow c.rest.length c
      let text := if word.isEmpty then text else text ++ gap.text ++ word
      let broken := gap.broken && word.isEmpty
      if c.at? 0 fun x => Cursor.isBlank x || Cursor.isBreak x then
        let start : Gap := if word.isEmpty then gap else {}
        let (gap, c) ← readGap? indent c.rest.length start c
        if !inFlow && c.column < indent then some (text, gap.broken, c)
        else plainFrom? inFlow indent fuel text gap c
      else some (text, broken, c)

/-- Reads a plain scalar; tells whether it ends behind a line break. -/
def plain? (inFlow : Bool) (indent : Nat) (c : Cursor) : Option (List Char × Bool × Cursor) :=
  plainFrom? inFlow indent (c.rest.length + 1) [] {} c

/-! ## Quoted scalars -/

/-- The character of an escape with one letter. -/
def shortEscape? (x : Char) : Option Char :=
  [('0', '\x00'), ('a', '\x07'), ('b', '\x08'), ('t', '\t'), ('\t', '\t'), ('n', '\n'),
   ('v', '\x0b'), ('f', '\x0c'), ('r', '\r'), ('e', '\x1b'), (' ', ' '), ('"', '"'), ('/', '/'),
   ('\\', '\\'), ('N', '\x85'), ('_', '\xa0'), ('L', '\u2028'), ('P', '\u2029')].lookup x

/-- Reads an escape behind its backslash. -/
def escape? (c : Cursor) : Option (Char × Cursor) := do
  let x ← c.ahead 0
  let digits := if x = 'x' then 2 else if x = 'u' then 4 else if x = 'U' then 8 else 0
  if digits = 0 then
    let y ← shortEscape? x
    some (y, c.skip)
  else
    let written := (c.rest.drop 1).take digits
    let n ← Text.digitsNat? 16 written
    if written.length = digits ∧ n.isValidChar then some (Char.ofNat n, c.skipBy (digits + 1))
    else none

/-- Reads a scalar in single quotes behind its opening quote. -/
def singleQuoted? : (fuel : Nat) → List Char → Cursor → Option (List Char × Cursor)
  | 0, _, _ => none
  | fuel + 1, text, c =>
    if c.atDocumentMark then none
    else
      match c.rest with
      | [] => none
      | '\'' :: '\'' :: _ => singleQuoted? fuel (text ++ ['\'']) (c.skipBy 2)
      | '\'' :: _ => some (text, c.skip)
      | x :: _ =>
        if Cursor.isBlank x || Cursor.isBreak x then do
          let (gap, c) ← readGap? 0 c.rest.length {} c
          singleQuoted? fuel (text ++ gap.text) c
        else singleQuoted? fuel (text ++ [x]) c.skip

/-- Reads a scalar in double quotes behind its opening quote. -/
def doubleQuoted? : (fuel : Nat) → List Char → Cursor → Option (List Char × Cursor)
  | 0, _, _ => none
  | fuel + 1, text, c =>
    if c.atDocumentMark then none
    else
      match c.rest with
      | [] => none
      | '"' :: _ => some (text, c.skip)
      | '\\' :: _ =>
        if c.at? 1 Cursor.isBreak then do
          let c := c.skip.readBreak.2
          let (gap, c) ← readGap? 0 c.rest.length { broken := true } c
          doubleQuoted? fuel (text ++ gap.text) c
        else do
          let (x, c) ← escape? c.skip
          doubleQuoted? fuel (text ++ [x]) c
      | x :: _ =>
        if Cursor.isBlank x || Cursor.isBreak x then do
          let (gap, c) ← readGap? 0 c.rest.length {} c
          doubleQuoted? fuel (text ++ gap.text) c
        else doubleQuoted? fuel (text ++ [x]) c.skip

/-- Reads a quoted scalar. -/
def quoted? (c : Cursor) : Option (List Char × Cursor) :=
  if c.isAt '"' then doubleQuoted? (c.rest.length + 1) [] c.skip
  else singleQuoted? (c.rest.length + 1) [] c.skip

/-! ## Block scalars -/

/-- Which of the last line breaks of a block scalar belong to it. -/
inductive Chomping where
  | strip
  | clip
  | keep
deriving DecidableEq

/-- The chomping that a character tells. -/
def chomping? (x : Char) : Option Chomping :=
  if x = '+' then some .keep else if x = '-' then some .strip else none

/-- Reads the header of a block scalar behind its first character: the chomping, and the
    indentation if it is told, in either order. -/
def blockHeader? (c : Cursor) : Option (Chomping × Option Nat × Cursor) :=
  let chomp (c : Cursor) : Option Chomping × Cursor :=
    match (c.ahead 0).bind chomping? with
    | some chomping => (some chomping, c.skip)
    | none => (none, c)
  let indentation? (c : Cursor) : Option (Option Nat × Cursor) :=
    match (c.ahead 0).bind (Text.digit? 10) with
    | some 0 => none
    | some n => some (some n, c.skip)
    | none => some (none, c)
  match chomp c with
  | (some chomping, c) => (indentation? c).map fun (n, c) => (chomping, n, c)
  | (none, c) => (indentation? c).map fun (n, c) =>
    match n with
    | some n => let (chomping, c) := chomp c; (chomping.getD .clip, some n, c)
    | none => (.clip, none, c)

/-- Reads the empty lines before a line of a block scalar. An indentation of zero is not known
    yet; `widest` is the widest seen. -/
def blockBreaks? (indent : Nat) :
    (fuel widest : Nat) → List Char → Cursor → Option (Nat × List Char × Cursor)
  | 0, _, _, _ => none
  | fuel + 1, widest, breaks, c =>
    let spaces := c.rest.takeWhile (· == ' ')
    let c := c.skipBy (if indent = 0 then spaces.length else min spaces.length (indent - c.column))
    let widest := max widest c.column
    if (indent = 0 ∨ c.column < indent) ∧ c.isAt '\t' then none
    else if c.at? 0 Cursor.isBreak then
      let (br, c) := c.readBreak
      blockBreaks? indent fuel widest (breaks ++ br) c
    else some (widest, breaks, c)

/-- Reads the lines of a block scalar. `lead` is the line break behind the line before, `breaks`
    those of empty lines, `blank` tells whether the line before starts with a blank. -/
def blockLines? (folded : Bool) (indent : Nat) :
    (fuel : Nat) → (text lead breaks : List Char) → (blank : Bool) → Cursor →
      Option (List Char × List Char × List Char × Cursor)
  | 0, _, _, _, _, _ => none
  | fuel + 1, text, lead, breaks, blank, c =>
    if c.column = indent ∧ ¬c.atEnd then
      let blankHere := c.at? 0 Cursor.isBlank
      let join :=
        if folded && lead == ['\n'] && !blank && !blankHere then
          if breaks.isEmpty then [' '] else []
        else lead
      let (line, c) := c.readWhile fun x => !Cursor.isBreak x
      let (lead, c) := c.readBreak
      match blockBreaks? indent (c.rest.length + 1) 0 [] c with
      | none => none
      | some (_, after, c) =>
        blockLines? folded indent fuel (text ++ join ++ breaks ++ line) lead after blankHere c
    else some (text, lead, breaks, c)

/-- Reads a block scalar inside a block with the indentation `outer`, which is -1 at the top. -/
def block? (folded : Bool) (outer : Int) (c : Cursor) : Option (List Char × Cursor) := do
  let (chomping, told, c) ← blockHeader? c.skip
  let c := (c.readWhile Cursor.isBlank).2.skipComment
  if !c.endsLine then none
  let c := c.readBreak.2
  let known := match told with
    | some n => if 0 ≤ outer then outer.toNat + n else n
    | none => 0
  let (widest, breaks, c) ← blockBreaks? known (c.rest.length + 1) 0 [] c
  let indent := if known = 0 then max widest (max (outer + 1).toNat 1) else known
  let (text, lead, breaks, c) ← blockLines? folded indent (c.rest.length + 1) [] [] breaks false c
  some (text ++ (if chomping = .strip then [] else lead)
    ++ (if chomping = .keep then breaks else []), c)

end Yaml
end PageObjects
