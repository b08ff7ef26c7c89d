/-
  PageObjects.Pattern.CharSet

  The sets of characters that a pattern can ask for: ranges and named classes, put
  together by union, intersection and complement, and closed under a change of case.
-/

import PageObjects.Text.Blank
import PageObjects.Text.Case
import PageObjects.Text.Digit
import PageObjects.Text.WordChar

namespace PageObjects
namespace Pattern

/-- A set of characters. -/
inductive CharSet where
  | none
  | range (first last : Char)
  /-- The decimal digits of all scripts. -/
  | digit
  /-- The characters of words of all scripts. -/
  | word
  /-- The white space of all scripts. -/
  | blank
  | letter
  | union (a b : CharSet)
  | inter (a b : CharSet)
  | compl (a : CharSet)
  /-- All characters that differ from one of the set only in case. -/
  | anyCase (a : CharSet)
deriving DecidableEq, Repr

namespace CharSet

/-- Whether a character is in the set. -/
def contains : CharSet → Char → Bool
  | .none, _ => false
  | .range first last, c => first ≤ c && c ≤ last
  | .digit, c => Text.isDecimal c
  | .word, c => Text.isWordChar c
  | .blank, c => Text.isBlank c
  | .letter, c => Text.isLetter c
  | .union a b, c => a.contains c || b.contains c
  | .inter a b, c => a.contains c && b.contains c
  | .compl a, c => !a.contains c
  | .anyCase a, c => (Text.caseVariants c).any a.contains

/-- The set of one character. -/
def single (c : Char) : CharSet := .range c c

/-- The characters of a text. -/
def ofChars (chars : List Char) : CharSet :=
  chars.foldr (fun c set => .union (single c) set) .none

/-- All characters. -/
def all : CharSet := .compl .none

/-- The elements of one set that are not in the other. -/
def diff (a b : CharSet) : CharSet := .inter a (.compl b)

/-- The elements of exactly one of the sets. -/
def symmDiff (a b : CharSet) : CharSet := .union (diff a b) (diff b a)

/-! ## ASCII -/

def asciiDigit : CharSet := .range '0' '9'

def asciiLower : CharSet := .range 'a' 'z'

def asciiUpper : CharSet := .range 'A' 'Z'

def asciiAlpha : CharSet := .union asciiLower asciiUpper

def asciiAlnum : CharSet := .union asciiDigit asciiAlpha

def asciiWord : CharSet := .union asciiAlnum (single '_')

def asciiBlank : CharSet := ofChars ['\t', '\n', '\x0b', '\x0c', '\r', ' ']

/-- The class of ASCII characters with a name, as it is written between colons. -/
def named? : String → Option CharSet
  | "alnum" => some asciiAlnum
  | "alpha" => some asciiAlpha
  | "ascii" => some (.range '\x00' '\x7f')
  | "blank" => some (ofChars ['\t', ' '])
  | "cntrl" => some (.union (.range '\x00' '\x1f') (single '\x7f'))
  | "digit" => some asciiDigit
  | "graph" => some (.range '!' '~')
  | "lower" => some asciiLower
  | "print" => some (.range ' ' '~')
  | "punct" => some (diff (.range '!' '~') asciiAlnum)
  | "space" => some asciiBlank
  | "upper" => some asciiUpper
  | "word" => some asciiWord
  | "xdigit" => some (.union asciiDigit (.union (.range 'A' 'F') (.range 'a' 'f')))
  | _ => Option.none

end CharSet

end Pattern
end PageObjects
