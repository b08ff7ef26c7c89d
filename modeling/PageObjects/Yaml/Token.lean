/-
  PageObjects.Yaml.Token

  The lexical level of YAML. The lexer cuts a text into scalars, names, tags and
  marks, and adds marks where a block begins and ends by its indentation. A key is
  known as one only when the colon behind it comes; so every place where a key may
  begin is remembered, and the marks of the key are put in there later. A key must
  stand on one line and within 1024 characters.
-/

import PageObjects.Url.Percent
import PageObjects.Yaml.Scalar

namespace PageObjects
namespace Yaml

/-- A lexical unit of YAML. -/
inductive Token where
  | directive (name : List Char) (handle uri : List Char)
  | documentStart
  | documentEnd
  | blockSequenceStart
  | blockMappingStart
  | blockEnd
  | flowSequenceStart
  | flowSequenceEnd
  | flowMappingStart
  | flowMappingEnd
  | blockEntry
  | flowEntry
  | key
  | value
  | aliasOf (name : List Char)
  | anchor (name : List Char)
  | tag (handle suffix : List Char)
  | scalar (style : ScalarStyle) (text : List Char)
  | streamEnd
deriving DecidableEq, Repr

/-- A place where a key may have begun. -/
structure KeyPlace where
  possible : Bool := false
  required : Bool := false
  /-- The number of tokens before it. -/
  number : Nat := 0
  index : Nat := 0
  line : Nat := 0
  column : Nat := 0

/-- Where the lexer stands. -/
structure Lexer where
  cursor : Cursor
  tokens : Array Token := #[]
  /-- The column of the innermost block; -1 outside all blocks. -/
  indent : Int := -1
  outerIndents : List Int := []
  /-- Whether a key may begin here. -/
  keyAllowed : Bool := true
  /-- The place of a key at this level of flow collections. -/
  place : KeyPlace := {}
  /-- The places at the levels around it, innermost first. -/
  outerPlaces : List KeyPlace := []

namespace Lexer

/-- The depth of flow collections. -/
def flowDepth (l : Lexer) : Nat :=
  l.outerPlaces.length

/-- Whether the lexer is inside a flow collection. -/
def inFlow (l : Lexer) : Bool :=
  !l.outerPlaces.isEmpty

/-- Adds a token behind the text up to `cursor`. -/
def emit (token : Token) (cursor : Cursor) (l : Lexer) : Lexer :=
  { l with tokens := l.tokens.push token, cursor }

/-- Adds a token that takes `n` characters. -/
def emitBy (n : Nat) (token : Token) (l : Lexer) : Lexer :=
  l.emit token (l.cursor.skipBy n)

/-! ## Gaps between tokens -/

/-- Passes blanks, comments and line breaks. Tabs do not count where a key may begin. -/
def skipGap : (fuel : Nat) → Lexer → Lexer
  | 0, l => l
  | fuel + 1, l =>
    let tabs := l.inFlow || !l.keyAllowed
    let c := if l.cursor.index = 0 ∧ l.cursor.isAt '\ufeff' then l.cursor.skip else l.cursor
    let c := (c.readWhile fun x => x == ' ' || (tabs && x == '\t')).2.skipComment
    if c.at? 0 Cursor.isBreak then
      skipGap fuel { l with cursor := c.readBreak.2, keyAllowed := l.keyAllowed || !l.inFlow }
    else { l with cursor := c }

/-! ## Keys -/

/-- A place that is too far behind is none; it must not be if it was required. -/
def expire? (cursor : Cursor) (place : KeyPlace) : Option KeyPlace :=
  if place.possible ∧ (place.line < cursor.line ∨ place.index + 1024 < cursor.index) then
    if place.required then none else some { place with possible := false }
  else some place

/-- Forgets the places that are too far behind. -/
def expireAll? (l : Lexer) : Option Lexer := do
  let place ← expire? l.cursor l.place
  let outerPlaces ← l.outerPlaces.mapM (expire? l.cursor)
  some { l with place, outerPlaces }

/-- Forgets the place at this level; it must not be required. -/
def forgetKey? (l : Lexer) : Option Lexer :=
  if l.place.possible ∧ l.place.required then none
  else some { l with place := { l.place with possible := false } }

/-- Remembers this place, if a key may begin here. -/
def rememberKey? (l : Lexer) : Option Lexer :=
  if l.keyAllowed then do
    let l ← l.forgetKey?
    some { l with
      place :=
        { possible := true
          required := !l.inFlow && l.indent == (l.cursor.column : Int)
          number := l.tokens.size
          index := l.cursor.index
          line := l.cursor.line
          column := l.cursor.column } }
  else some l

/-! ## Blocks -/

/-- Begins a block at a column, its mark before the token `number`. -/
def beginBlock (column number : Nat) (token : Token) (l : Lexer) : Lexer :=
  if !l.inFlow && l.indent < (column : Int) then
    { l with
      outerIndents := l.indent :: l.outerIndents
      indent := column
      tokens := l.tokens.insertIdxIfInBounds number token }
  else l

/-- Ends the blocks that are indented more than `column`. -/
def endBlocks (column : Int) (l : Lexer) : Lexer :=
  if l.inFlow then l
  else
    let ended := (l.indent :: l.outerIndents).takeWhile (column < ·)
    match (l.indent :: l.outerIndents).dropWhile (column < ·) with
    | indent :: outerIndents =>
      { l with indent, outerIndents, tokens := l.tokens ++ Array.replicate ended.length .blockEnd }
    | [] => l

/-! ## Tokens -/

/-- The mark of a document or a directive ends all blocks. -/
def atTop? (l : Lexer) : Option Lexer :=
  (l.endBlocks (-1)).forgetKey?.map fun l => { l with keyAllowed := false }

/-- Ends the text. -/
def finish? (l : Lexer) : Option (Array Token) :=
  l.atTop?.map fun l => l.tokens.push .streamEnd

/-- Opens a flow collection. -/
def openFlow? (token : Token) (l : Lexer) : Option Lexer :=
  l.rememberKey?.map fun l =>
    { l.emitBy 1 token with
      keyAllowed := true, place := {}, outerPlaces := l.place :: l.outerPlaces }

/-- Closes a flow collection. -/
def closeFlow? (token : Token) (l : Lexer) : Option Lexer :=
  l.forgetKey?.map fun l =>
    let l := { l.emitBy 1 token with keyAllowed := false }
    match l.outerPlaces with
    | place :: outerPlaces => { l with place, outerPlaces }
    | [] => l

/-- An entry of a block sequence. -/
def blockEntry? (l : Lexer) : Option Lexer :=
  if !l.inFlow && !l.keyAllowed then none
  else
    (l.beginBlock l.cursor.column l.tokens.size .blockSequenceStart).forgetKey?.map fun l =>
      { l.emitBy 1 .blockEntry with keyAllowed := true }

/-- A key with a mark of its own. -/
def key? (l : Lexer) : Option Lexer :=
  if !l.inFlow && !l.keyAllowed then none
  else
    (l.beginBlock l.cursor.column l.tokens.size .blockMappingStart).forgetKey?.map fun l =>
      { l.emitBy 1 .key with keyAllowed := !l.inFlow }

/-- The value of a key: of one at the remembered place, or of one with a mark of its own. -/
def value? (l : Lexer) : Option Lexer :=
  if l.place.possible then
    let l := { l with tokens := l.tokens.insertIdxIfInBounds l.place.number .key }
    let l := l.beginBlock l.place.column l.place.number .blockMappingStart
    some { l.emitBy 1 .value with
      keyAllowed := false, place := { l.place with possible := false } }
  else if !l.inFlow && !l.keyAllowed then none
  else
    let l := l.beginBlock l.cursor.column l.tokens.size .blockMappingStart
    some { l.emitBy 1 .value with keyAllowed := !l.inFlow }

/-- Whether `x` may stand in the name of an anchor. -/
def isNameChar (x : Char) : Bool :=
  x.isAlphanum || x == '_' || x == '-'

/-- The name of an anchor, behind its mark. -/
def anchorName? (c : Cursor) : Option (List Char × Cursor) :=
  let (name, c) := c.readWhile isNameChar
  if !name.isEmpty && (c.endsWord 0 || c.at? 0 fun x => "?:,]\x7d%@`".toList.contains x) then
    some (name, c)
  else none

/-- Whether `x` may stand in the address of a tag. -/
def isUriChar (x : Char) : Bool :=
  isNameChar x || ";/?:@&=+$.!~*'()%".toList.contains x

/-- Whether every `%` stands before two hexadecimal digits. -/
def escapesWell : List Char → Bool
  | [] => true
  | x :: rest => (x != '%' || (Percent.escaped? rest).isSome) && escapesWell rest

/-- The rest of a tag: its characters, those written by their bytes decoded. -/
def uri? (more : Char → Bool) (c : Cursor) : Option (List Char × Cursor) :=
  let (written, c) := c.readWhile fun x => isUriChar x || more x
  if escapesWell written then (Utf8.decode? (Percent.decode written)).map fun uri => (uri, c)
  else none

/-- A tag, behind its first mark. -/
def tag? (inFlow : Bool) (c : Cursor) : Option (Token × Cursor) := do
  let (token, c) ←
    if c.isAt '<' then do
      let (uri, c) ← uri? (fun x => x == ',' || x == '[' || x == ']') c.skip
      if c.isAt '>' && !uri.isEmpty then some (Token.tag [] uri, c.skip) else none
    else
      let (name, behind) := c.readWhile isNameChar
      if behind.isAt '!' then do
        let (suffix, c) ← uri? (fun _ => false) behind.skip
        if suffix.isEmpty then none else some (Token.tag ('!' :: name ++ ['!']) suffix, c)
      else do
        let (suffix, c) ← uri? (fun _ => false) c
        some (if suffix.isEmpty then Token.tag [] ['!'] else Token.tag ['!'] suffix, c)
  if c.endsWord 0 || (inFlow && c.isAt ',') then some (token, c) else none

/-- A directive, behind its mark. -/
def directive? (c : Cursor) : Option (Token × Cursor) := do
  let (name, c) := c.readWhile isNameChar
  let blanks (c : Cursor) : Cursor := (c.readWhile Cursor.isBlank).2
  let (token, c) ←
    if name = "YAML".toList then do
      let (major, c) := (blanks c).readWhile Char.isDigit
      if major.isEmpty || !c.isAt '.' then none
      let (minor, c) := c.skip.readWhile Char.isDigit
      if minor.isEmpty || 9 < major.length || 9 < minor.length then none
      some (Token.directive name major minor, c)
    else if name = "TAG".toList then do
      let c := blanks c
      if !c.isAt '!' then none
      let (inner, c) := c.skip.readWhile isNameChar
      let c' := if c.isAt '!' then c.skip else c
      if !c.isAt '!' && !inner.isEmpty then none
      let handle := '!' :: inner ++ (if c.isAt '!' then ['!'] else [])
      if !c'.at? 0 Cursor.isBlank then none
      let (uri, c) ← uri? (fun x => x == ',' || x == '[' || x == ']') (blanks c')
      if uri.isEmpty || !c.endsWord 0 then none
      some (Token.directive name handle uri, c)
    else none
  let c := (blanks c).skipComment
  if c.endsLine then some (token, c.readBreak.2) else none

/-- A name or a tag, which a key may begin with. -/
def named? (token : Option (Token × Cursor)) (l : Lexer) : Option Lexer := do
  let l ← l.rememberKey?
  let (token, c) ← token
  some { l.emit token c with keyAllowed := false }

/-- A plain scalar. -/
def plainScalar? (l : Lexer) : Option Lexer := do
  let l ← l.rememberKey?
  let (text, broken, c) ← plain? l.inFlow (l.indent + 1).toNat l.cursor
  some { l.emit (.scalar .plain text) c with keyAllowed := broken }

/-- A block scalar. -/
def blockScalar? (folded : Bool) (l : Lexer) : Option Lexer := do
  let l ← l.forgetKey?
  let (text, c) ← block? folded l.indent l.cursor
  some { l.emit (.scalar (if folded then .folded else .literal) text) c with keyAllowed := true }

/-- Whether a plain scalar may begin here. -/
def startsPlain (l : Lexer) (x : Char) : Bool :=
  !(Cursor.isBlank x || Cursor.isBreak x || "-?:,[]\x7b\x7d#&*!|>'\"%@`".toList.contains x)
    || (x == '-' && !l.cursor.at? 1 Cursor.isBlank)
    || (!l.inFlow && (x == '?' || x == ':') && !l.cursor.endsWord 1)

/-- Reads the token that begins with `x`. -/
def token? (x : Char) (l : Lexer) : Option Lexer :=
  let c := l.cursor
  if c.column = 0 ∧ x = '%' then do
    let l ← l.atTop?
    let (token, c) ← directive? c.skip
    some (l.emit token c)
  else if c.atDocumentMark then
    l.atTop?.map (emitBy 3 (if x = '-' then .documentStart else .documentEnd))
  else if x = '[' then l.openFlow? .flowSequenceStart
  else if x = '\x7b' then l.openFlow? .flowMappingStart
  else if x = ']' then l.closeFlow? .flowSequenceEnd
  else if x = '\x7d' then l.closeFlow? .flowMappingEnd
  else if x = ',' then l.forgetKey?.map fun l => { l.emitBy 1 .flowEntry with keyAllowed := true }
  else if x = '-' ∧ c.endsWord 1 then l.blockEntry?
  else if x = '?' ∧ (l.inFlow ∨ c.endsWord 1) then l.key?
  else if x = ':' ∧ (l.inFlow ∨ c.endsWord 1) then l.value?
  else if x = '*' then l.named? ((anchorName? c.skip).map fun (name, c) => (.aliasOf name, c))
  else if x = '&' then l.named? ((anchorName? c.skip).map fun (name, c) => (.anchor name, c))
  else if x = '!' then l.named? (tag? l.inFlow c.skip)
  else if x = '|' ∧ ¬l.inFlow then l.blockScalar? false
  else if x = '>' ∧ ¬l.inFlow then l.blockScalar? true
  else if x = '\'' ∨ x = '"' then
    l.named? ((quoted? c).map fun (text, c) => (.scalar .quoted text, c))
  else if l.startsPlain x then l.plainScalar?
  else none

/-- Reads all tokens. Every token but the last takes at least one character. -/
def run? : (fuel : Nat) → Lexer → Option (Array Token)
  | 0, _ => none
  | fuel + 1, l => do
    let l ← (l.skipGap (l.cursor.rest.length + 1)).expireAll?
    let l := l.endBlocks l.cursor.column
    match l.cursor.ahead 0 with
    | none => l.finish?
    | some x => (← l.token? x).run? fuel

end Lexer

/-- The tokens of a text, if it is in the language. -/
def Token.ofText? (text : String) : Option (List Token) :=
  let chars := text.toList
  if chars.all Cursor.isText then
    ((Lexer.run? (chars.length + 1) { cursor := .start chars }).map Array.toList)
  else none

end Yaml
end PageObjects
