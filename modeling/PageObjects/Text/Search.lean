/-
  PageObjects.Text.Search

  Whether a text occurs inside another one.
-/

namespace PageObjects
namespace Text

/-- Whether `needle` occurs in a text, at any place. -/
def occursIn (needle : List Char) : List Char → Bool
  | [] => needle.isEmpty
  | c :: rest => needle.isPrefixOf (c :: rest) || occursIn needle rest

/-- A text without the characters `c` at its end. -/
def trimEnd (c : Char) (s : List Char) : List Char :=
  (s.reverse.dropWhile (· == c)).reverse

/-- A needle occurs in a text exactly if the text can be cut before and behind it. -/
theorem occursIn_iff {needle s : List Char} : occursIn needle s = true ↔ needle <:+: s := by
  induction s with
  | nil => cases needle <;> simp [occursIn]
  | cons c rest ih => simp [occursIn, ih, List.infix_cons_iff]

end Text
end PageObjects
