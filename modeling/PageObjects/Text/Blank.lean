/-
  PageObjects.Text.Blank

  White space: the characters with the Unicode property White_Space, and the
  two operations on text that rest on it.

    * `trim` drops the blanks at both ends.
    * `words` lists the maximal runs of characters that are not blank.
-/

import PageObjects.Text.Ranges

namespace PageObjects
namespace Text

/-- The code points with the property White_Space. -/
def blankRanges : CodeRanges :=
  [(0x09, 0x0d), (0x20, 0x20), (0x85, 0x85), (0xa0, 0xa0), (0x1680, 0x1680), (0x2000, 0x200a),
   (0x2028, 0x2029), (0x202f, 0x202f), (0x205f, 0x205f), (0x3000, 0x3000)]

/-- Whether `c` is white space. -/
def isBlank (c : Char) : Bool :=
  blankRanges.contains c

/-- The characters without the blanks at both ends. -/
def trimBlanks (s : List Char) : List Char :=
  ((s.dropWhile isBlank).reverse.dropWhile isBlank).reverse

/-- The text without the blanks at both ends. -/
def trim (s : String) : String :=
  String.ofList (trimBlanks s.toList)

/-- Splits off blank-free runs; `run` holds the current one, last character first. -/
def wordsFrom (run : List Char) : List Char → List (List Char)
  | [] => if run.isEmpty then [] else [run.reverse]
  | c :: rest =>
    if isBlank c then
      if run.isEmpty then wordsFrom [] rest else run.reverse :: wordsFrom [] rest
    else wordsFrom (c :: run) rest

/-- The maximal blank-free runs of the text, in order. -/
def words (s : String) : List String :=
  (wordsFrom [] s.toList).map String.ofList

/-! ## Trimming -/

/-- A text that neither starts nor ends with a blank is left as it is. -/
theorem trimBlanks_eq_self {s : List Char} (h_head : s.dropWhile isBlank = s)
    (h_last : s.reverse.dropWhile isBlank = s.reverse) : trimBlanks s = s := by
  rw [trimBlanks, h_head, h_last, List.reverse_reverse]

end Text
end PageObjects
