/-
  PageObjects.Json.Reader

  Reading JSON text. The grammar is the standard one: the four blanks, no leading
  zeros, no control characters in strings, nothing behind the value. `parse?` is
  `none` exactly if the text is not in the grammar; half surrogates are in it.
-/

import PageObjects.Json.Basic

namespace PageObjects
namespace Json
namespace Reader

/-- Whether `c` may stand between the parts of a value. -/
def isGap (c : Char) : Bool :=
  c == ' ' || c == '\n' || c == '\t' || c == '\r'

/-- The text behind the leading gaps. -/
def skipGaps (s : List Char) : List Char :=
  s.dropWhile isGap

/-! ## Strings -/

/-- A unit of a string: a character, or half of a surrogate pair. -/
inductive StringUnit where
  | char (c : Char)
  | high (n : Nat)
  | low (n : Nat)

/-- The unit with the number of a `\u` escape. -/
def StringUnit.ofNat (n : Nat) : StringUnit :=
  if 0xd800 ≤ n ∧ n < 0xdc00 then .high n
  else if 0xdc00 ≤ n ∧ n < 0xe000 then .low n
  else .char (Char.ofNat n)

/-- The text spelled by the units; halves must stand in pairs. -/
def textOfUnits? : List StringUnit → Option (List Char)
  | [] => some []
  | .char c :: rest => (textOfUnits? rest).map (c :: ·)
  | .high h :: .low l :: rest =>
    (textOfUnits? rest).map (Char.ofNat (0x10000 + (h - 0xd800) * 0x400 + (l - 0xdc00)) :: ·)
  | _ => none

/-- The character of an escape with one letter. -/
def shortEscape? : Char → Option Char
  | '"' => some '"'
  | '\\' => some '\\'
  | '/' => some '/'
  | 'b' => some '\x08'
  | 'f' => some '\x0c'
  | 'n' => some '\n'
  | 'r' => some '\r'
  | 't' => some '\t'
  | _ => none

/-- Reads a string behind its opening quote. -/
def units? : List Char → Option (List StringUnit × List Char)
  | '"' :: rest => some ([], rest)
  | '\\' :: 'u' :: a :: b :: c :: d :: rest => do
    let n ← Text.digitsNat? 16 [a, b, c, d]
    let (units, behind) ← units? rest
    some (StringUnit.ofNat n :: units, behind)
  | '\\' :: e :: rest => do
    let c ← shortEscape? e
    let (units, behind) ← units? rest
    some (.char c :: units, behind)
  | c :: rest =>
    if c.toNat < 32 then none
    else do
      let (units, behind) ← units? rest
      some (.char c :: units, behind)
  | [] => none

/-- Reads a string behind its opening quote; its text is `none` if halves stand alone. -/
def string? (s : List Char) : Option (Option String × List Char) :=
  (units? s).map fun (units, rest) => ((textOfUnits? units).map String.ofList, rest)

/-! ## Numbers -/

/-- Whether `c` is an ASCII digit. -/
def isDigit (c : Char) : Bool := c.isDigit

/-- Reads at least one digit. -/
def digits? (s : List Char) : Option (List Char × List Char) :=
  if (s.takeWhile isDigit).isEmpty then none
  else some (s.takeWhile isDigit, s.dropWhile isDigit)

/-- Reads the digits before a fraction: a zero alone, or digits that do not start with zero. -/
def whole? : List Char → Option (List Char × List Char)
  | '0' :: rest =>
    match rest with
    | c :: _ => if isDigit c then none else some (['0'], rest)
    | [] => some (['0'], [])
  | s => digits? s

/-- Reads a fraction, if there is a point. -/
def fraction? : List Char → Option (List Char × List Char)
  | '.' :: s => (digits? s).map fun (ds, rest) => ('.' :: ds, rest)
  | s => some ([], s)

/-- Reads an exponent, if there is a mark for one. -/
def exponent? : List Char → Option (List Char × List Char)
  | [] => some ([], [])
  | e :: s =>
    if e = 'e' ∨ e = 'E' then
      match s with
      | sign :: s' =>
        if sign = '+' ∨ sign = '-' then
          (digits? s').map fun (ds, rest) => (e :: sign :: ds, rest)
        else (digits? s).map fun (ds, rest) => (e :: ds, rest)
      | [] => none
    else some ([], e :: s)

/-- Reads a number without sign. -/
def unsigned? (s : List Char) : Option (List Char × List Char) := do
  let (whole, s) ← whole? s
  let (fraction, s) ← fraction? s
  let (exponent, s) ← exponent? s
  some (whole ++ fraction ++ exponent, s)

/-- Reads a number. -/
def number? : List Char → Option (List Char × List Char)
  | '-' :: s => (unsigned? s).map fun (literal, rest) => ('-' :: literal, rest)
  | s => unsigned? s

/-! ## Values -/

/-- Reads one of the words of the grammar, of which the first letter is read already. -/
def word? (letters : List Char) (value : Json) (s : List Char) : Option (Json × List Char) :=
  if letters.isPrefixOf s then some (value, s.drop letters.length) else none

mutual

/-- Reads a value with the gaps before it. -/
def value? (fuel : Nat) (s : List Char) : Option (Json × List Char) :=
  match fuel with
  | 0 => none
  | fuel + 1 =>
    match skipGaps s with
    | [] => none
    | c :: rest =>
      if c = 'n' then word? ['u', 'l', 'l'] .null rest
      else if c = 't' then word? ['r', 'u', 'e'] (.bool true) rest
      else if c = 'f' then word? ['a', 'l', 's', 'e'] (.bool false) rest
      else if c = '"' then (string? rest).map fun (text, behind) => (.string text, behind)
      else if c = '[' then
        match skipGaps rest with
        | ']' :: behind => some (.array [], behind)
        | _ => (items? fuel rest).map fun (items, behind) => (.array items, behind)
      else if c = '\x7b' then
        match skipGaps rest with
        | '\x7d' :: behind => some (.object [], behind)
        | _ => (members? fuel rest).map fun (members, behind) => (.object members, behind)
      else (number? (c :: rest)).map fun (literal, behind) =>
        (.number (String.ofList literal), behind)

/-- Reads the items of an array, at least one, and the closing bracket. -/
def items? (fuel : Nat) (s : List Char) : Option (List Json × List Char) :=
  match fuel with
  | 0 => none
  | fuel + 1 => do
    let (item, s) ← value? fuel s
    match skipGaps s with
    | ',' :: rest =>
      let (items, behind) ← items? fuel rest
      some (item :: items, behind)
    | ']' :: behind => some ([item], behind)
    | _ => none

/-- Reads the members of an object, at least one, and the closing brace. -/
def members? (fuel : Nat) (s : List Char) : Option (List (Option String × Json) × List Char) :=
  match fuel with
  | 0 => none
  | fuel + 1 =>
    match skipGaps s with
    | '"' :: rest => do
      let (name, s) ← string? rest
      match skipGaps s with
      | ':' :: s =>
        let (value, s) ← value? fuel s
        match skipGaps s with
        | ',' :: rest =>
          let (members, behind) ← members? fuel rest
          some ((name, value) :: members, behind)
        | '\x7d' :: behind => some ([(name, value)], behind)
        | _ => none
      | _ => none
    | _ => none

end

/-- An array behind its opening bracket. -/
theorem value?_bracket (fuel : Nat) (s : List Char) :
    value? (fuel + 1) ('[' :: s) = match skipGaps s with
      | ']' :: behind => some (.array [], behind)
      | _ => (items? fuel s).map fun (items, behind) => (.array items, behind) := rfl

/-- An object behind its opening brace. -/
theorem value?_brace (fuel : Nat) (s : List Char) :
    value? (fuel + 1) ('\x7b' :: s) = match skipGaps s with
      | '\x7d' :: behind => some (.object [], behind)
      | _ => (members? fuel s).map fun (members, behind) => (.object members, behind) := rfl

end Reader

/-- The value written by a text. Every nested call reads at least one character, or is the only
    call for an item or member, so twice the length is enough fuel. -/
def parse? (text : String) : Option Json :=
  let s := text.toList
  match Reader.value? (2 * s.length + 2) s with
  | some (value, rest) => if (Reader.skipGaps rest).isEmpty then some value else none
  | none => none

end Json
end PageObjects
