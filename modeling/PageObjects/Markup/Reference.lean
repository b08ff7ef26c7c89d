/-
  PageObjects.Markup.Reference

  Character references: `&amp;`, `&#38;`, `&#x26;` and their kin. Decoding reads
  the text once from left to right. A reference that names a character is
  replaced by it; any other ampersand stands for itself, so what is written after
  an unknown reference is decoded as usual and decoded text is never read again.
-/

import PageObjects.Text.Numeral

namespace PageObjects
namespace Markup

/-- The references that have a name, and the characters they stand for. -/
def namedReferences : List (List Char × Char) :=
  [("amp".toList, '&'), ("lt".toList, '<'), ("gt".toList, '>'), ("quot".toList, '"'),
   ("apos".toList, '\''), ("nbsp".toList, '\xa0')]

/-- The character with the given code point; surrogates and numbers above the last code point
    have none. -/
def charOfCodePoint? (n : Nat) : Option Char :=
  if n.isValidChar then some (Char.ofNat n) else none

/-- The character meant by the text between an ampersand and a semicolon. -/
def referent? : List Char → Option Char
  | '#' :: 'x' :: digits => (Text.digitsNat? 16 digits).bind charOfCodePoint?
  | '#' :: 'X' :: digits => (Text.digitsNat? 16 digits).bind charOfCodePoint?
  | '#' :: digits => (Text.digitsNat? 10 digits).bind charOfCodePoint?
  | name => namedReferences.lookup name

/-- Whether `c` may stand between an ampersand and its semicolon. -/
def isReferenceChar (c : Char) : Bool :=
  c.isAlphanum || c == '#'

/-- Reads the rest of a reference after its ampersand: the character meant, and the text behind
    the semicolon. -/
def reference? (s : List Char) : Option (Char × List Char) :=
  match s.dropWhile isReferenceChar with
  | ';' :: rest => (referent? (s.takeWhile isReferenceChar)).map fun c => (c, rest)
  | _ => none

theorem length_dropWhile_le {α : Type _} (p : α → Bool) (l : List α) :
    (l.dropWhile p).length ≤ l.length :=
  (List.dropWhile_sublist p).length_le

/-- The text behind a reference is shorter than the text it was read from. -/
theorem length_lt_of_reference? {s rest : List Char} {c : Char}
    (h : reference? s = some (c, rest)) : rest.length < s.length := by
  unfold reference? at h
  split at h
  · rename_i tail h_drop
    obtain ⟨_, _, h_eq⟩ := Option.map_eq_some_iff.1 h
    have h_rest : tail = rest := (Prod.mk.inj h_eq).2
    have h_le := length_dropWhile_le isReferenceChar s
    rw [h_drop, List.length_cons, h_rest] at h_le
    omega
  · cases h

/-- The text with its character references replaced by the characters they stand for. -/
def decodeChars (s : List Char) : List Char :=
  match s with
  | [] => []
  | c :: rest =>
    if c = '&' then
      match _h : reference? rest with
      | some (referent, behind) => referent :: decodeChars behind
      | none => '&' :: decodeChars rest
    else c :: decodeChars rest
termination_by s.length
decreasing_by
  · have := length_lt_of_reference? (by assumption)
    simp only [List.length_cons]
    omega
  · simp
  · simp

/-- The text with its character references replaced by the characters they stand for. -/
def decodeReferences (s : String) : String :=
  String.ofList (decodeChars s.toList)

end Markup
end PageObjects
