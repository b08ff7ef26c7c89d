/-
  PageObjects.Text.Split

  Cutting a text at a character: `parts` cuts at every one, `cut` at the first.
-/

namespace PageObjects
namespace Text

/-- Puts a character before the first part. -/
def consPart (c : Char) : List (List Char) → List (List Char)
  | [] => [[c]]
  | first :: others => (c :: first) :: others

/-- The parts between the characters `sep`; there is always at least one. -/
def parts (sep : Char) : List Char → List (List Char)
  | [] => [[]]
  | c :: rest => if c = sep then [] :: parts sep rest else consPart c (parts sep rest)

/-- What stands before the first `sep`, and what stands behind it, if there is one. -/
def cut (sep : Char) (s : List Char) : List Char × Option (List Char) :=
  match s.dropWhile (· != sep) with
  | [] => (s, none)
  | _ :: rest => (s.takeWhile (· != sep), some rest)

end Text
end PageObjects
