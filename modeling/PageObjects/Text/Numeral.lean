/-
  PageObjects.Text.Numeral

  Numbers written with ASCII digits. `digitsNat?` reads a run of digits in a base
  up to sixteen; `natural?` and `integer?` read a whole text as a decimal number
  with an optional sign. There is no upper limit here: a caller that needs a
  bound compares the number.
-/

namespace PageObjects
namespace Text

/-- The value of a digit in a base up to sixteen, either case. -/
def digit? (base : Nat) (c : Char) : Option Nat :=
  let n := c.toNat
  let value? :=
    if 48 ≤ n ∧ n ≤ 57 then some (n - 48)
    else if 97 ≤ n ∧ n ≤ 102 then some (n - 87)
    else if 65 ≤ n ∧ n ≤ 70 then some (n - 55)
    else none
  value?.filter (· < base)

/-- The number whose digits, most significant first, are `ds`. -/
def ofDigits (base : Nat) (ds : List Nat) : Nat :=
  ds.foldl (fun n d => n * base + d) 0

/-- The number written by a non-empty run of digits. -/
def digitsNat? (base : Nat) (s : List Char) : Option Nat :=
  if s.isEmpty then none else (s.mapM (digit? base)).map (ofDigits base)

/-- A decimal number, perhaps with a plus sign. -/
def natural? : List Char → Option Nat
  | '+' :: s => digitsNat? 10 s
  | s => digitsNat? 10 s

/-- A decimal number, perhaps with a sign. -/
def integer? : List Char → Option Int
  | '-' :: s => (digitsNat? 10 s).map fun n => -(n : Int)
  | s => (natural? s).map fun n => (n : Int)

/-- The number of values of a word of `bits` bits. -/
def wordSize (bits : Nat) : Nat :=
  1 <<< bits

/-- The numbers of an unsigned word of `bits` bits. -/
def naturalBelow? (bits : Nat) (s : List Char) : Option Nat :=
  (natural? s).filter (· < wordSize bits)

/-- The numbers of a signed word of 64 bits. -/
def int64? (s : List Char) : Option Int :=
  (integer? s).filter fun n => -(wordSize 63 : Int) ≤ n ∧ n < wordSize 63

end Text
end PageObjects
