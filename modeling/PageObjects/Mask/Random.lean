/-
  PageObjects.Mask.Random

  Random draws from a stream of 64-bit words. A fair coin asks for one word; a
  choice among `n` asks for words until one falls into the largest range that `n`
  divides evenly, so that every choice is equally likely. Since a stream may miss
  that range for ever, a choice has a limit on the words it asks for.
-/

import PageObjects.Text.Numeral

namespace PageObjects

/-- A source of random words with its state. -/
structure Generator (σ : Type) where
  next : σ → UInt64 × σ

namespace Generator

/-- A generator that adds a constant to its state and mixes the sum. -/
def splitMix : Generator UInt64 where
  next state :=
    let state := state + 0x9E3779B97F4A7C15
    let z := (state ^^^ (state >>> 30)) * 0xBF58476D1CE4E5B9
    let z := (z ^^^ (z >>> 27)) * 0x94D049BB133111EB
    (z ^^^ (z >>> 31), state)

variable {σ : Type}

/-- A fair coin. -/
def coin (g : Generator σ) (state : σ) : Bool × σ :=
  let (word, state) := g.next state
  (word.toNat < Text.wordSize 63, state)

/-- The last low half that is accepted for a choice among `n`, a number of 32 bits. -/
def zone (n : Nat) : Nat :=
  (n <<< (31 - n.log2)) % Text.wordSize 32 - 1

/-- A choice among `n`, from at most `tries` words. -/
def choose? (g : Generator σ) (n : Nat) : (tries : Nat) → σ → Option (Nat × σ)
  | 0, _ => none
  | tries + 1, state =>
    let (word, state) := g.next state
    let product := word.toNat % Text.wordSize 32 * n
    if product % Text.wordSize 32 ≤ zone n then some (product / Text.wordSize 32, state)
    else choose? g n tries state

end Generator

end PageObjects
