/-
  PageObjects.Url.Punycode

  A label of a domain name in ASCII: first its ASCII characters, then, behind a
  hyphen, the other characters in the order of their code points. Each is written
  as the number of (code point, place) pairs between it and the one before, in a
  base of thirty-six with digits whose weights adapt to the numbers seen so far.
-/

import PageObjects.Text.Numeral

namespace PageObjects
namespace Punycode

/-! ## Digits and their weights -/

/-- The digit with the given value, letters first. -/
def digitChar (d : Nat) : Char :=
  if d < 26 then Char.ofNat (0x61 + d) else Char.ofNat (0x30 + (d - 26))

/-- The value of a digit, either case. -/
def digitValue? (c : Char) : Option Nat :=
  if c.isUpper then some (c.toNat - 0x41)
  else if c.isLower then some (c.toNat - 0x61)
  else if c.isDigit then some (c.toNat - 0x30 + 26)
  else none

/-- The least digit at position `k` that does not end a number. -/
def threshold (k bias : Nat) : Nat :=
  if k ≤ bias then 1 else if bias + 26 ≤ k then 26 else k - bias

theorem threshold_pos (k bias : Nat) : 1 ≤ threshold k bias := by
  unfold threshold
  split
  · omega
  · split <;> omega

theorem threshold_le (k bias : Nat) : threshold k bias ≤ 26 := by
  unfold threshold
  split
  · omega
  · split <;> omega

/-- Scales a number down to at most 455; gives it with thirty-six times the steps taken. -/
def scaleDown (delta k : Nat) : Nat × Nat :=
  if 455 < delta then scaleDown (delta / 35) (k + 36) else (delta, k)
termination_by delta
decreasing_by omega

/-- The bias behind a number that brought the label to `size` characters. -/
def adapt (delta size : Nat) (isFirst : Bool) : Nat :=
  let delta := if isFirst then delta / 700 else delta / 2
  let (delta, k) := scaleDown (delta + delta / size) 0
  k + 36 * delta / (delta + 38)

/-! ## Encoding -/

/-- The digits of a number. -/
def encodeNumber (bias k q : Nat) : List Char :=
  let t := threshold k bias
  if q < t then [digitChar q]
  else digitChar (t + (q - t) % (36 - t)) :: encodeNumber bias (k + 36) ((q - t) / (36 - t))
termination_by q
decreasing_by
  have h_pos := threshold_pos k bias
  have h_le := Nat.div_le_self (q - threshold k bias) (36 - threshold k bias)
  omega

/-- Where encoding stands: the number to be written next, the bias, and how many characters are
    written, with the text so far. -/
structure Encoder where
  delta : Nat
  bias : Nat
  written : Nat
  basic : Nat
  text : List Char

/-- Passes one character of the label while those with the code point `n` are written. -/
def Encoder.pass (n : Nat) (e : Encoder) (c : Char) : Encoder :=
  if c.toNat < n then { e with delta := e.delta + 1 }
  else if c.toNat = n then
    { e with
      delta := 0
      bias := adapt e.delta (e.written + 1) (e.written == e.basic)
      written := e.written + 1
      text := e.text ++ encodeNumber e.bias 36 e.delta }
  else e

/-- Writes the characters with the given code points, in increasing order from `n` on. -/
def Encoder.run (label : List Char) (n : Nat) : List Nat → Encoder → Encoder
  | [], e => e
  | m :: rest, e =>
    let e := { e with delta := e.delta + (m - n) * (e.written + 1) }
    let e := label.foldl (Encoder.pass m) e
    Encoder.run label (m + 1) rest { e with delta := e.delta + 1 }

/-- Inserts a number into an increasing list, once. -/
def insertOnce (x : Nat) : List Nat → List Nat
  | [] => [x]
  | y :: ys => if x < y then x :: y :: ys else if x = y then y :: ys else y :: insertOnce x ys

/-- The encoded form of a label. -/
def encode (label : List Char) : List Char :=
  let basic := label.filter fun c => c.toNat < 0x80
  let others := ((label.map Char.toNat).filter (0x80 ≤ ·)).foldr insertOnce []
  let start := if basic.isEmpty then [] else basic ++ ['-']
  (Encoder.run label 0x80 others
    { delta := 0, bias := 72, written := basic.length, basic := basic.length, text := start }).text

/-! ## Decoding -/

/-- Reads a number on top of `i`; gives the sum and the text behind. -/
def decodeNumber? (bias : Nat) (i weight k : Nat) : List Char → Option (Nat × List Char)
  | [] => none
  | c :: rest => do
    let d ← digitValue? c
    let i := i + d * weight
    let t := threshold k bias
    if d < t then some (i, rest) else decodeNumber? bias i (weight * (36 - t)) (k + 36) rest

theorem length_lt_of_decodeNumber? {bias i weight k j : Nat} {s rest : List Char}
    (h : decodeNumber? bias i weight k s = some (j, rest)) : rest.length < s.length := by
  induction s generalizing i weight k with
  | nil => cases h
  | cons c s ih =>
    simp only [decodeNumber?] at h
    cases h_digit : digitValue? c with
    | none => rw [h_digit] at h; cases h
    | some d =>
      rw [h_digit] at h
      simp only [Option.bind_eq_bind, Option.bind_some] at h
      split at h
      · cases h
        simp
      · have := ih h
        simp only [List.length_cons]
        omega

/-- Reads the characters outside ASCII into a label. -/
def decodeFrom? (n i bias : Nat) (label : List Char) (s : List Char) : Option (List Char) :=
  if s.isEmpty then some label
  else
    match _h : decodeNumber? bias i 1 36 s with
    | none => none
    | some (j, rest) =>
      let size := label.length + 1
      let n := n + j / size
      let place := j % size
      if 0x80 ≤ n ∧ n.isValidChar then
        decodeFrom? n (place + 1) (adapt (j - i) size (i == 0))
          (label.take place ++ Char.ofNat n :: label.drop place) rest
      else none
termination_by s.length
decreasing_by exact length_lt_of_decodeNumber? (by assumption)

/-- The label with the given encoded form. -/
def decode? (s : List Char) : Option (List Char) :=
  let tail := (s.reverse.takeWhile (· != '-')).reverse
  let basic := if tail.length = s.length then [] else s.take (s.length - tail.length - 1)
  if s.all (·.toNat < 0x80) then decodeFrom? 0x80 0 72 basic tail else none

end Punycode
end PageObjects
