/-
  PageObjects.Mask.Generate

  Values that fit an input mask. A digit of the mask stands for a digit, a letter
  for a letter and `*` for either; the other characters are put in by the input
  itself and stand for nothing in the value.
-/

import PageObjects.Mask.Random
import PageObjects.Text.Letter

namespace PageObjects
namespace Mask

variable {σ : Type}

/-- What a character of a mask stands for. -/
inductive Placeholder where
  | digit
  | letter
  | either
deriving DecidableEq, Repr

/-- What a character of a mask stands for, if anything. -/
def placeholder? (c : Char) : Option Placeholder :=
  if c.isDigit then some .digit
  else if Text.isLetter c then some .letter
  else if c = '*' then some .either
  else none

/-- A random digit. -/
def digit? (g : Generator σ) (tries : Nat) (state : σ) : Option (Char × σ) :=
  (g.choose? 10 tries state).map fun (n, state) => (Char.ofNat ('0'.toNat + n), state)

/-- A random letter, of random case if none is asked for. -/
def letter? (g : Generator σ) (tries : Nat) (uppercase : Option Bool) (state : σ) :
    Option (Char × σ) :=
  let (upper, state) := match uppercase with
    | some upper => (upper, state)
    | none => g.coin state
  let first := if upper then 'A' else 'a'
  (g.choose? 26 tries state).map fun (n, state) => (Char.ofNat (first.toNat + n), state)

/-- A random character for a placeholder. -/
def fill? (g : Generator σ) (tries : Nat) (uppercase : Option Bool) (state : σ) :
    Placeholder → Option (Char × σ)
  | .digit => digit? g tries state
  | .letter => letter? g tries uppercase state
  | .either =>
    let (isDigit, state) := g.coin state
    if isDigit then digit? g tries state else letter? g tries uppercase state

/-- One character for each placeholder, in order; none if a draw goes on beyond `tries`. -/
def fillAll? (g : Generator σ) (tries : Nat) (uppercase : Option Bool) (state : σ) :
    List Char → Option (List Char)
  | [] => some []
  | c :: rest =>
    match placeholder? c with
    | none => fillAll? g tries uppercase state rest
    | some p => do
      let (value, state) ← fill? g tries uppercase state p
      let values ← fillAll? g tries uppercase state rest
      some (value :: values)

/-- A value that fits the mask. -/
def generate? (g : Generator σ) (tries : Nat) (uppercase : Option Bool) (state : σ)
    (mask : String) : Option String :=
  (fillAll? g tries uppercase state mask.toList).map String.ofList

end Mask
end PageObjects
