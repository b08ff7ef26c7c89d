/-
  PageObjects.Pattern.Escape

  The smallest parts of a written pattern: the flags that hold at a place, white
  space where it does not count, counts, and the escapes behind a backslash.
-/

import PageObjects.Pattern.Basic
import PageObjects.Text.Numeral

namespace PageObjects
namespace Pattern

/-- How the characters at a place of a pattern are understood. -/
structure Flags where
  ignoreCase : Bool := false
  /-- Whether `^` and `$` stand for the ends of lines. -/
  multiLine : Bool := false
  /-- Whether the dot stands for line ends, too. -/
  dotAll : Bool := false
  /-- Whether classes hold the characters of all scripts. -/
  unicode : Bool := true
  /-- Whether lines may end with a carriage return. -/
  crlf : Bool := false
  /-- Whether white space and comments in the pattern do not count. -/
  extended : Bool := false
deriving DecidableEq, Repr

namespace Flags

/-- The characters of words. -/
def word (flags : Flags) : CharSet :=
  if flags.unicode then .word else CharSet.asciiWord

/-- Closes a set under a change of case, if case is ignored. -/
def fold (flags : Flags) (set : CharSet) : CharSet :=
  if !flags.ignoreCase then set
  else if flags.unicode then .anyCase set
  else .inter (.anyCase set) (.range '\x00' '\x7f')

/-- The complement of a set, which must be one of characters of all scripts. -/
def negate? (flags : Flags) (set : CharSet) : Option CharSet :=
  if flags.unicode then some (.compl set) else none

/-- The set of one character; a class of ASCII characters has no other ones. -/
def single? (flags : Flags) (c : Char) : Option CharSet :=
  if flags.unicode || c.toNat < 128 then some (.single c) else none

end Flags

/-! ## Where white space does not count -/

/-- What stands behind white space and comments. The flag tells whether it is inside a comment. -/
def afterComments : (inComment : Bool) → List Char → List Char
  | _, [] => []
  | true, c :: rest => afterComments (c != '\n') rest
  | false, c :: rest =>
    if c = '#' then afterComments true rest
    else if Text.isBlank c then afterComments false rest
    else c :: rest

/-- What stands behind white space that does not count. -/
def skip (flags : Flags) (s : List Char) : List Char :=
  if flags.extended then afterComments false s else s

/-- The leading characters of a class, with white space that does not count between them. -/
def run (flags : Flags) (isWanted : Char → Bool) : (fuel : Nat) → List Char → List Char × List Char
  | 0, s => ([], s)
  | _ + 1, [] => ([], [])
  | fuel + 1, c :: rest =>
    if isWanted c then
      let (more, rest) := run flags isWanted fuel (skip flags rest)
      (c :: more, rest)
    else ([], c :: rest)

/-- A count of repetitions between white space. -/
def count? (flags : Flags) (s : List Char) : Option (Nat × List Char) := do
  let s := s.dropWhile Text.isBlank
  let (digits, rest) := run flags Char.isDigit s.length s
  let n ← Text.naturalBelow? 32 digits
  some (n, rest.dropWhile Text.isBlank)

/-! ## Escapes -/

/-- What a backslash and the characters behind it stand for. -/
inductive Atom where
  | char (c : Char)
  | class (set : CharSet)
  | anchor (place : Anchor)
deriving DecidableEq, Repr

/-- Whether a character has a meaning of its own in patterns. -/
def isMeta (c : Char) : Bool :=
  "\\.+*?()|[]\x7b\x7d^$#&-~".toList.contains c

/-- Whether a backslash before a character leaves the character as it is. -/
def isEscapable (c : Char) : Bool :=
  c.toNat < 128 && !c.isAlphanum && c != '<' && c != '>'

/-- Whether a character is a hexadecimal digit. -/
def isHexDigit (c : Char) : Bool :=
  (Text.digit? 16 c).isSome

/-- The character with a code point in hexadecimal digits. -/
def charOfHex? (digits : List Char) : Option Char := do
  let n ← Text.digitsNat? 16 digits
  if n.isValidChar then some (Char.ofNat n) else none

/-- A code point behind its letter: a fixed number of digits, or any number between braces. -/
def hex? (flags : Flags) (width : Nat) (s : List Char) : Option (Char × List Char) :=
  match skip flags s with
  | '\x7b' :: rest => do
    let (digits, rest) := run flags (· != '\x7d') rest.length (skip flags rest)
    match rest with
    | '\x7d' :: rest => if digits.all isHexDigit then some (← charOfHex? digits, rest) else none
    | _ => none
  | s => do
    let (digits, rest) := run flags isHexDigit width s
    if digits.length = width then
      let c ← charOfHex? digits
      if width = 2 && 128 ≤ c.toNat && !flags.unicode then none else some (c, rest)
    else none

/-- A class named by a letter, with its complement in upper case. -/
def perlClass? (flags : Flags) (c : Char) : Option CharSet :=
  let pick (all ascii : CharSet) : CharSet := if flags.unicode then all else ascii
  match c with
  | 'd' => some (pick .digit CharSet.asciiDigit)
  | 's' => some (pick .blank CharSet.asciiBlank)
  | 'w' => some flags.word
  | 'D' => flags.negate? (pick .digit CharSet.asciiDigit)
  | 'S' => flags.negate? (pick .blank CharSet.asciiBlank)
  | 'W' => flags.negate? flags.word
  | _ => none

/-- A property of characters by its name, without regard to case and separators. -/
def property? (name : List Char) : Option CharSet :=
  let plain := (name.filter fun c => !" _-".toList.contains c).map Char.toLower
  match String.ofList plain with
  | "alphabetic" | "alpha" => some .letter
  | "whitespace" | "space" => some .blank
  | "nd" | "decimalnumber" | "digit" => some .digit
  | "any" => some .all
  | "ascii" => some (.range '\x00' '\x7f')
  | _ => none

/-- A property behind its letter. -/
def propertyClass? (flags : Flags) (negated : Bool) (s : List Char) :
    Option (CharSet × List Char) := do
  let (name, rest) ← match s with
    | '\x7b' :: rest =>
      match rest.dropWhile (· != '\x7d') with
      | _ :: behind => some (rest.takeWhile (· != '\x7d'), behind)
      | [] => none
    | c :: rest => some ([c], rest)
    | [] => none
  let (inverted, name) := match name with
    | '^' :: name => (true, name)
    | name => (false, name)
  let set ← property? name
  let set := if flags.ignoreCase then .anyCase set else set
  if !flags.unicode then none
  else some (if negated != inverted then .compl set else set, rest)

/-- The anchor that a name between braces gives to a word boundary. -/
def namedBoundary? (inside : CharSet) : String → Option Anchor
  | "start" => some (.wordStart inside)
  | "end" => some (.wordEnd inside)
  | "start-half" => some (.wordStartHalf inside)
  | "end-half" => some (.wordEndHalf inside)
  | _ => none

/-- A word boundary behind its letter, with a name if there is one. -/
def boundary? (flags : Flags) (s : List Char) : Option (Anchor × List Char) :=
  let isNameChar (c : Char) : Bool := c.isAlpha || c == '-'
  match s with
  | '\x7b' :: rest =>
    match skip flags rest with
    | [] => none
    | inner =>
      let (name, behind) := run flags isNameChar inner.length inner
      if name.isEmpty then some (.boundary flags.word, s)
      else match behind with
        | '\x7d' :: behind => do
          some (← namedBoundary? flags.word (String.ofList name), behind)
        | _ => none
  | _ => some (.boundary flags.word, s)

/-- The character that a letter behind a backslash stands for. -/
def controlChar? (c : Char) : Option Char :=
  match c with
  | 'a' => some '\x07'
  | 'f' => some '\x0c'
  | 't' => some '\t'
  | 'n' => some '\n'
  | 'r' => some '\r'
  | 'v' => some '\x0b'
  | _ => none

/-- What stands behind a backslash. -/
def escape? (flags : Flags) : List Char → Option (Atom × List Char)
  | [] => none
  | c :: rest =>
    let charAtom := Option.map fun (c, rest) => (Atom.char c, rest)
    match c with
    | 'x' => charAtom (hex? flags 2 rest)
    | 'u' => charAtom (hex? flags 4 rest)
    | 'U' => charAtom (hex? flags 8 rest)
    | 'p' => (propertyClass? flags false rest).map fun (chars, rest) => (.class chars, rest)
    | 'P' => (propertyClass? flags true rest).map fun (chars, rest) => (.class chars, rest)
    | 'A' => some (.anchor .textStart, rest)
    | 'z' => some (.anchor .textEnd, rest)
    | 'b' => (boundary? flags rest).map fun (place, rest) => (.anchor place, rest)
    | 'B' => some (.anchor (.notBoundary flags.word), rest)
    | '<' => some (.anchor (.wordStart flags.word), rest)
    | '>' => some (.anchor (.wordEnd flags.word), rest)
    | _ =>
      if isMeta c || isEscapable c then some (.char c, rest)
      else match controlChar? c with
        | some control => some (.char control, rest)
        | none => (perlClass? flags c).map fun chars => (.class chars, rest)

end Pattern
end PageObjects
