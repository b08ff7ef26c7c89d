/-
  PageObjects.Pattern.Basic

  Search patterns, and what it means that a text has a match. A match is a way
  through the text from one position to another. `Pattern.reach` takes a set of
  positions to the set of all those that matches from them can lead to, so that a
  text has a match if anything is reached from the set of all its positions. Which
  of several matches is preferred does not matter for that.
-/

import PageObjects.Pattern.CharSet

namespace PageObjects
namespace Pattern

/-- What a pattern can ask of a position. -/
inductive Anchor where
  | textStart
  | textEnd
  /-- The beginning of a line, where lines end with a line feed or, if `crlf`, a carriage return. -/
  | lineStart (crlf : Bool)
  | lineEnd (crlf : Bool)
  /-- Between a character of the set and one outside, an end of the text being outside. -/
  | boundary (inside : CharSet)
  | notBoundary (inside : CharSet)
  | wordStart (inside : CharSet)
  | wordEnd (inside : CharSet)
  /-- Behind a character outside the set. -/
  | wordStartHalf (inside : CharSet)
  /-- Before a character outside the set. -/
  | wordEndHalf (inside : CharSet)
deriving DecidableEq, Repr

/-- Whether a position between two characters, each missing at an end of the text, is as asked. -/
def Anchor.holds (before after : Option Char) : Anchor → Bool
  | .textStart => before.isNone
  | .textEnd => after.isNone
  | .lineStart false => before.all (· == '\n')
  | .lineStart true =>
    before.isNone || before == some '\n' || (before == some '\r' && after != some '\n')
  | .lineEnd false => after.all (· == '\n')
  | .lineEnd true =>
    after.isNone || after == some '\r' || (after == some '\n' && before != some '\r')
  | .boundary inside => before.any inside.contains != after.any inside.contains
  | .notBoundary inside => before.any inside.contains == after.any inside.contains
  | .wordStart inside => !before.any inside.contains && after.any inside.contains
  | .wordEnd inside => before.any inside.contains && !after.any inside.contains
  | .wordStartHalf inside => !before.any inside.contains
  | .wordEndHalf inside => !after.any inside.contains

end Pattern

/-- A search pattern. -/
inductive Pattern where
  | empty
  | set (chars : Pattern.CharSet)
  | anchor (place : Pattern.Anchor)
  | seq (a b : Pattern)
  | alt (a b : Pattern)
  /-- The pattern at least `least` times and, if there is a limit, at most `most` times. -/
  | times (a : Pattern) (least : Nat) (most : Option Nat)
deriving DecidableEq, Repr

namespace Pattern

/-! ## Marked positions -/

/-- A set of positions of a text: a mark for every position, from that before the first character
    to that behind the last one. -/
abbrev Marks := List Bool

/-- The positions of either set. -/
def Marks.union (a b : Marks) : Marks :=
  List.zipWith (· || ·) a b

/-- The positions of the first set that are not in the second. -/
def Marks.minus (a b : Marks) : Marks :=
  List.zipWith (fun x y => x && !y) a b

/-- Whether there is any position in the set. -/
def Marks.nonempty (marks : Marks) : Bool :=
  marks.any id

/-- The characters around every position, each missing at an end of the text. -/
def surroundings (text : List Char) : List (Option Char × Option Char) :=
  (none :: text.map some).zip (text.map some ++ [none])

/-! ## Ways through a text -/

/-- The positions after exactly `n` steps. -/
def afterSteps (step : Marks → Marks) : (n : Nat) → Marks → Marks
  | 0, marks => marks
  | n + 1, marks => if marks.nonempty then afterSteps step n (step marks) else marks

/-- The positions after at most `n` steps from those of `reached`, where only the steps from those
    of `latest` may lead to others. -/
def withinSteps (step : Marks → Marks) : (n : Nat) → (reached latest : Marks) → Marks
  | 0, reached, _ => reached
  | n + 1, reached, latest =>
    let fresh := (step latest).minus reached
    if fresh.nonempty then withinSteps step n (reached.union fresh) fresh else reached

/-- The positions that matches from some positions can lead to. In a text of `n` characters, a way
    of more than `n` steps has one that leads nowhere, so that more than `n + 1` steps reach nothing
    new. -/
def reach (text : List Char) : Pattern → Marks → Marks
  | .empty, marks => marks
  | .set chars, marks => false :: List.zipWith (fun mark c => mark && chars.contains c) marks text
  | .anchor place, marks =>
    List.zipWith (fun mark (before, after) => mark && place.holds before after) marks
      (surroundings text)
  | .seq a b, marks => b.reach text (a.reach text marks)
  | .alt a b, marks => (a.reach text marks).union (b.reach text marks)
  | .times a least most, marks =>
    let enough := text.length + 1
    let more := (most.map fun limit => min (limit - least) enough).getD enough
    let reached := afterSteps (a.reach text) (min least enough) marks
    withinSteps (a.reach text) more reached reached

/-- Whether some part of a text matches the pattern. -/
def occursIn (pattern : Pattern) (text : String) : Bool :=
  let chars := text.toList
  (pattern.reach chars (List.replicate (chars.length + 1) true)).nonempty

end Pattern
end PageObjects
