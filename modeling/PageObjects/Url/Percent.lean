/-
  PageObjects.Url.Percent

  Percent-encoding. Every byte may be written as `%` and two hexadecimal digits;
  which characters must be is up to the part of the address they stand in. All
  characters outside ASCII are encoded everywhere.
-/

import PageObjects.Text.Numeral
import PageObjects.Text.Utf8

namespace PageObjects
namespace Percent

/-! ## Which characters are encoded -/

/-- Whether `c` is a control character or lies outside ASCII. -/
def inControls (c : Char) : Bool :=
  c.toNat < 0x20 || 0x7f ≤ c.toNat

/-- Whether `c` is encoded in a fragment. -/
def inFragment (c : Char) : Bool :=
  inControls c || c == ' ' || c == '"' || c == '<' || c == '>' || c == '`'

/-- Whether `c` is encoded in a path. -/
def inPath (c : Char) : Bool :=
  inFragment c || c == '#' || c == '?' || c == '\x7b' || c == '\x7d'

/-- Whether `c` is encoded in a user name or a password. -/
def inUserinfo (c : Char) : Bool :=
  inPath c || c == '/' || c == ':' || c == ';' || c == '=' || c == '@' || c == '[' || c == '\\'
    || c == ']' || c == '^' || c == '|'

/-- Whether `c` is encoded in a query. -/
def inQuery (c : Char) : Bool :=
  inControls c || c == ' ' || c == '"' || c == '#' || c == '<' || c == '>'

/-- Whether `c` is encoded in a query of an address with a well-known scheme. -/
def inSpecialQuery (c : Char) : Bool :=
  inQuery c || c == '\''

/-! ## Encoding and decoding -/

/-- A hexadecimal digit, upper case. -/
def hexDigit (n : Nat) : Char :=
  if n < 10 then Char.ofNat (0x30 + n) else Char.ofNat (0x37 + n)

/-- A byte in its encoded form. -/
def encodeByte (b : Nat) : List Char :=
  ['%', hexDigit (b / 16), hexDigit (b % 16)]

/-- The text with the characters of a set encoded. -/
def encode (set : Char → Bool) (s : List Char) : List Char :=
  s.flatMap fun c => if set c then (Utf8.encodeChar c).flatMap encodeByte else [c]

/-- The byte given by two hexadecimal digits, and the text behind them. -/
def escaped? : List Char → Option (Nat × List Char)
  | a :: b :: behind => do
    let hi ← Text.digit? 16 a
    let lo ← Text.digit? 16 b
    some (hi * 16 + lo, behind)
  | _ => none

theorem length_lt_of_escaped? {s behind : List Char} {b : Nat}
    (h : escaped? s = some (b, behind)) : behind.length < s.length := by
  unfold escaped? at h
  split at h
  · rename_i x y tail
    cases h_hi : Text.digit? 16 x with
    | none => rw [h_hi] at h; cases h
    | some hi =>
      cases h_lo : Text.digit? 16 y with
      | none => rw [h_hi, h_lo] at h; cases h
      | some lo =>
        rw [h_hi, h_lo] at h
        cases h
        simp only [List.length_cons]
        omega
  · cases h

/-- The bytes of the text, with encoded bytes decoded; a `%` without two hexadecimal digits
    stands for itself. -/
def decode (s : List Char) : List Nat :=
  match s with
  | [] => []
  | c :: rest =>
    if c = '%' then
      match _h : escaped? rest with
      | some (b, behind) => b :: decode behind
      | none => Utf8.encodeChar c ++ decode rest
    else Utf8.encodeChar c ++ decode rest
termination_by s.length
decreasing_by
  · have := length_lt_of_escaped? (by assumption)
    simp only [List.length_cons]
    omega
  · simp
  · simp

end Percent
end PageObjects
