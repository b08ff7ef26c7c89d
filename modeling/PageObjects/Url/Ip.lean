/-
  PageObjects.Url.Ip

  Numeric host names. An address of four bytes has one to four numbers between
  dots, decimal, octal or hexadecimal, of which the last fills the bytes that are
  left; its text is the four bytes in decimal. An address of eight pieces has its
  pieces in hexadecimal between colons, where one run of zeros may be left out and
  the last two may be written as four bytes; its text leaves out the first of the
  longest runs of at least two zeros.
-/

import PageObjects.Text.Numeral
import PageObjects.Text.Split

namespace PageObjects
namespace Ip

/-! ## Addresses of four bytes -/

/-- A number of an address of four bytes, in the base that its first characters tell. -/
def number? : List Char → Option Nat
  | [] => none
  | '0' :: rest =>
    match rest with
    | [] => some 0
    | x :: digits =>
      if x = 'x' ∨ x = 'X' then
        if digits.isEmpty then some 0 else Text.digitsNat? 16 digits
      else Text.digitsNat? 8 rest
  | s => Text.digitsNat? 10 s

/-- The parts of a host name; an empty last part does not count. -/
def hostParts (host : List Char) : List (List Char) :=
  let all := Text.parts '.' host
  if 1 < all.length ∧ all.getLast? = some [] then all.dropLast else all

/-- Whether the last part of a host name is a number, so that the name must be an address. -/
def endsInNumber (host : List Char) : Bool :=
  match (hostParts host).getLast? with
  | none => false
  | some last => (!last.isEmpty && last.all Char.isDigit) || (number? last).isSome

/-- The address of four bytes with the given name. -/
def parseV4? (host : List Char) : Option Nat := do
  let numbers ← (hostParts host).mapM number?
  let last ← numbers.getLast?
  let leading := numbers.dropLast
  if 3 < leading.length then none
  else if Text.wordSize (32 - 8 * leading.length) ≤ last then none
  else if leading.any (255 < ·) then none
  else some (leading.zipIdx.foldl (fun sum (n, i) => sum + (n <<< (8 * (3 - i)))) last)

/-- The text of an address of four bytes. -/
def renderV4 (address : Nat) : String :=
  ".".intercalate ([24, 16, 8, 0].map fun shift => toString ((address >>> shift) % 256))

/-! ## Addresses of eight pieces -/

/-- A decimal number below 256 without leading zeros. -/
def byte? (s : List Char) : Option Nat :=
  if s.length = 1 ∨ s.head? ≠ some '0' then (Text.digitsNat? 10 s).filter (· < 256) else none

/-- A piece of up to four hexadecimal digits. -/
def piece? (s : List Char) : Option Nat :=
  if s.length ≤ 4 then Text.digitsNat? 16 s else none

/-- The two pieces given by four bytes between dots. -/
def dottedPieces? (s : List Char) : Option (List Nat) :=
  match (Text.parts '.' s).mapM byte? with
  | some [a, b, c, d] => some [a * 256 + b, c * 256 + d]
  | _ => none

/-- The pieces of a text between colons; only the last may be written as four bytes. -/
def pieces? : List (List Char) → Option (List Nat)
  | [] => some []
  | [last] => if last.contains '.' then dottedPieces? last else (piece? last).map fun n => [n]
  | first :: rest => do
    let n ← piece? first
    let others ← pieces? rest
    some (n :: others)

/-- The pieces of a side of the gap; an empty side has none. -/
def sidePieces? (s : List Char) : Option (List Nat) :=
  if s.isEmpty then some [] else pieces? (Text.parts ':' s)

/-- Splits a text at the first two colons that stand together. -/
def splitGap? : List Char → Option (List Char × List Char)
  | [] => none
  | c :: s =>
    match c, s with
    | ':', ':' :: rest => some ([], rest)
    | _, _ => (splitGap? s).map fun (left, right) => (c :: left, right)

/-- The pieces of the address of eight pieces with the given name. -/
def parseV6? (s : List Char) : Option (List Nat) :=
  match splitGap? s with
  | none => do
    let all ← pieces? (Text.parts ':' s)
    if all.length = 8 then some all else none
  | some (left, right) => do
    let left ← if left.contains '.' then none else sidePieces? left
    let right ← sidePieces? right
    if left.length + right.length < 8 then
      some (left ++ List.replicate (8 - (left.length + right.length)) 0 ++ right)
    else none

/-- The length of the run of zeros at the head of a list. -/
def zeros (pieces : List Nat) : Nat :=
  (pieces.takeWhile (· == 0)).length

/-- The start and the length of the first longest run of zeros. -/
def longestZeros (start : Nat) : List Nat → Nat × Nat
  | [] => (0, 0)
  | n :: rest =>
    let here := zeros (n :: rest)
    let (place, size) := longestZeros (start + 1) rest
    if size ≤ here then (start, here) else (place, size)

/-- A piece in hexadecimal. -/
def renderPiece (n : Nat) : String :=
  String.ofList (Nat.toDigits 16 n)

/-- The text of an address of eight pieces, between brackets. -/
def renderV6 (pieces : List Nat) : String :=
  let (place, size) := longestZeros 0 pieces
  let joined (ns : List Nat) : String := ":".intercalate (ns.map renderPiece)
  if size < 2 then "[" ++ joined pieces ++ "]"
  else "[" ++ joined (pieces.take place) ++ "::" ++ joined (pieces.drop (place + size)) ++ "]"

end Ip
end PageObjects
