/-
  PageObjects.Pattern.Reader

  Reading a written pattern. Groups that are still open are kept on a stack, the
  innermost first; every step takes at least one character, so the length of the text
  bounds the number of steps.
-/

import PageObjects.Pattern.Escape

namespace PageObjects
namespace Pattern

/-! ## Classes between brackets -/

/-- An operation between two classes. -/
inductive ClassOp where
  | inter
  | diff
  | symmDiff
deriving DecidableEq, Repr

/-- The class that an operation makes. -/
def ClassOp.apply : ClassOp → CharSet → CharSet → CharSet
  | .inter => .inter
  | .diff => CharSet.diff
  | .symmDiff => CharSet.symmDiff

/-- A class that is being read: the operation that waits for its second class, and the union of
    what was read since. -/
structure OpenClass where
  pending : Option (CharSet × ClassOp) := none
  items : CharSet := .none

namespace OpenClass

/-- The class with one more item. -/
def add (cls : OpenClass) (item : CharSet) : OpenClass :=
  { cls with items := .union cls.items item }

/-- The class as far as it was read. -/
def combined (flags : Flags) (cls : OpenClass) : CharSet :=
  match cls.pending with
  | none => flags.fold cls.items
  | some (left, op) => op.apply left (flags.fold cls.items)

/-- The class as the first one of an operation. -/
def before (flags : Flags) (op : ClassOp) (cls : OpenClass) : OpenClass :=
  { pending := some (cls.combined flags, op) }

end OpenClass

/-- A named class of ASCII characters, behind its opening bracket. -/
def namedClass? (flags : Flags) : List Char → Option (CharSet × List Char)
  | ':' :: rest =>
    let (negated, rest) := match rest with
      | '^' :: rest => (true, rest)
      | rest => (false, rest)
    match rest.dropWhile (· != ':') with
    | ':' :: ']' :: behind => do
      let chars ← CharSet.named? (String.ofList (rest.takeWhile (· != ':')))
      some (← if negated then flags.negate? chars else some chars, behind)
    | _ => none
  | _ => none

/-- One end of a range, or an item of its own. -/
def classAtom? (flags : Flags) : List Char → Option (Atom × List Char)
  | [] => none
  | '\\' :: rest => escape? flags rest
  | c :: rest => some (.char c, rest)

/-- The set of an item. A class has no anchors. -/
def Atom.chars? (flags : Flags) : Atom → Option CharSet
  | .char c => flags.single? c
  | .class chars => some chars
  | .anchor _ => none

/-- A range of a class, or a single item. -/
def classRange? (flags : Flags) (s : List Char) : Option (CharSet × List Char) := do
  let (first, rest) ← classAtom? flags s
  let rest := skip flags rest
  match rest with
  | '-' :: behind =>
    match skip flags behind with
    | ']' :: _ | '-' :: _ => some (← first.chars? flags, rest)
    | behind => do
      let (last, rest) ← classAtom? flags behind
      match first, last with
      | .char a, .char b =>
        let _ ← flags.single? b
        if a ≤ b then some (.range a b, rest) else none
      | _, _ => none
  | [] => none
  | _ => some (← first.chars? flags, rest)

/-- The hyphens at the beginning of a class, which stand for themselves. -/
def leadingHyphens (flags : Flags) : (fuel : Nat) → OpenClass → List Char → OpenClass × List Char
  | fuel + 1, cls, '-' :: rest =>
    leadingHyphens flags fuel (cls.add (.single '-')) (skip flags rest)
  | _, cls, s => (cls, s)

/-- The beginning of a class: whether it is a complement, and the characters that stand for
    themselves only there. -/
def classStart (flags : Flags) (s : List Char) : Bool × OpenClass × List Char :=
  let (negated, s) := match skip flags s with
    | '^' :: rest => (true, skip flags rest)
    | s => (false, s)
  match leadingHyphens flags s.length {} s with
  | (⟨none, .none⟩, ']' :: rest) => (negated, OpenClass.add {} (.single ']'), skip flags rest)
  | (cls, s) => (negated, cls, s)

mutual

/-- A class behind its opening bracket. -/
def class? (flags : Flags) : (fuel : Nat) → List Char → Option (CharSet × List Char)
  | 0, _ => none
  | fuel + 1, s => do
    let (negated, cls, s) := classStart flags s
    let (chars, rest) ← classItems? flags fuel cls s
    some (← if negated then flags.negate? chars else some chars, rest)

/-- The items of a class up to its closing bracket. -/
def classItems? (flags : Flags) : (fuel : Nat) → OpenClass → List Char →
    Option (CharSet × List Char)
  | 0, _, _ => none
  | fuel + 1, cls, s =>
    match skip flags s with
    | [] => none
    | ']' :: rest => some (cls.combined flags, rest)
    | '[' :: rest =>
      match namedClass? flags rest with
      | some (chars, rest) => classItems? flags fuel (cls.add chars) rest
      | none =>
        match class? flags fuel rest with
        | some (chars, rest) => classItems? flags fuel (cls.add chars) rest
        | none => none
    | '&' :: '&' :: rest => classItems? flags fuel (cls.before flags .inter) rest
    | '-' :: '-' :: rest => classItems? flags fuel (cls.before flags .diff) rest
    | '~' :: '~' :: rest => classItems? flags fuel (cls.before flags .symmDiff) rest
    | s =>
      match classRange? flags s with
      | some (chars, rest) => classItems? flags fuel (cls.add chars) rest
      | none => none

end

/-! ## Groups -/

/-- A flag by its letter. -/
def Flags.assign? (flags : Flags) (isOn : Bool) : Char → Option Flags
  | 'i' => some { flags with ignoreCase := isOn }
  | 'm' => some { flags with multiLine := isOn }
  | 's' => some { flags with dotAll := isOn }
  | 'U' => some flags
  | 'u' => some { flags with unicode := isOn }
  | 'R' => some { flags with crlf := isOn }
  | 'x' => some { flags with extended := isOn }
  | _ => none

/-- Flags behind a question mark, up to the character behind them. No flag may be given twice, and
    there is a flag behind a minus sign. -/
def flags? (flags : Flags) (isOn : Bool) (seen : List Char) :
    List Char → Option (Flags × Char × List Char)
  | [] => none
  | c :: rest =>
    if c = ':' ∨ c = ')' then if seen.head? = some '-' then none else some (flags, c, rest)
    else if seen.contains c then none
    else if c = '-' then flags? flags false (c :: seen) rest
    else match flags.assign? isOn c with
      | some flags => flags? flags isOn (c :: seen) rest
      | none => none

/-- Whether a character may stand in the name of a group. -/
def isNameChar (isFirst : Bool) (c : Char) : Bool :=
  c == '_' || Text.isLetter c || (!isFirst && (".[]".toList.contains c || Text.isDecimal c))

/-- The name of a group, behind its angle bracket. -/
def groupName? (s : List Char) : Option (String × List Char) :=
  match s.takeWhile (· != '>'), s.dropWhile (· != '>') with
  | first :: others, _ :: rest =>
    if isNameChar true first && others.all (isNameChar false) then
      some (String.ofList (first :: others), rest)
    else none
  | _, _ => none

/-- A group that is being read. -/
structure OpenGroup where
  /-- The alternatives that were read, the latest first. -/
  alternatives : List Pattern := []
  /-- The parts of the present alternative, the latest first. A change of flags is a part without a
      pattern; it cannot be repeated. -/
  parts : List (Option Pattern) := []
  /-- The flags that hold again behind the group. -/
  outerFlags : Flags

namespace OpenGroup

/-- The group with one more part. -/
def add (group : OpenGroup) (part : Option Pattern) : OpenGroup :=
  { group with parts := part :: group.parts }

/-- The present alternative. -/
def current (group : OpenGroup) : Pattern :=
  (group.parts.filterMap id).foldl (fun rest part => .seq part rest) .empty

/-- The group with a new alternative. -/
def nextAlternative (group : OpenGroup) : OpenGroup :=
  { group with alternatives := group.current :: group.alternatives, parts := [] }

/-- The pattern of the group. -/
def pattern (group : OpenGroup) : Pattern :=
  group.alternatives.foldl (fun rest alternative => .alt alternative rest) group.current

/-- The group with its last part repeated. -/
def repeatLast? (least : Nat) (most : Option Nat) (group : OpenGroup) : Option OpenGroup :=
  match group.parts with
  | some part :: parts => some { group with parts := some (.times part least most) :: parts }
  | _ => none

end OpenGroup

/-! ## Patterns -/

/-- What was read of a pattern. -/
structure Progress where
  flags : Flags
  group : OpenGroup
  /-- The groups around the present one, the innermost first. -/
  outer : List OpenGroup := []
  /-- The names of groups. -/
  names : List String := []

namespace Progress

/-- The progress with one more part in the present group. -/
def add (progress : Progress) (part : Pattern) : Progress :=
  { progress with group := progress.group.add (some part) }

/-- Opens a group in which the given flags hold. -/
def openGroup (flags : Flags) (progress : Progress) : Progress :=
  { progress with
    flags, group := { outerFlags := progress.flags }, outer := progress.group :: progress.outer }

/-- Closes the present group. -/
def closeGroup? (progress : Progress) : Option Progress :=
  match progress.outer with
  | [] => none
  | group :: outer =>
    some { progress with
      flags := progress.group.outerFlags
      group := group.add (some progress.group.pattern)
      outer }

/-- Opens a group behind its parenthesis, or changes the flags. -/
def group? (progress : Progress) (s : List Char) : Option (Progress × List Char) :=
  let named (rest : List Char) : Option (Progress × List Char) := do
    let (name, rest) ← groupName? rest
    if progress.names.contains name then none
    else some ({ progress.openGroup progress.flags with names := name :: progress.names }, rest)
  match skip progress.flags s with
  | '?' :: 'P' :: '<' :: rest => named rest
  | '?' :: '<' :: rest => named rest
  | '?' :: rest => do
    let (flags, closing, behind) ← flags? progress.flags true [] rest
    if closing = ':' then some (progress.openGroup flags, behind)
    else if rest.head? = some ')' then none
    else some ({ progress with flags, group := progress.group.add none }, behind)
  | s => some (progress.openGroup progress.flags, s)

/-- What stands behind the mark of a repetition that prefers few. -/
def afterLazyMark : List Char → List Char
  | '?' :: rest => rest
  | rest => rest

/-- Repeats the last part. -/
def repeated? (least : Nat) (most : Option Nat) (rest : List Char) (progress : Progress) :
    Option (Progress × List Char) := do
  let group ← progress.group.repeatLast? least most
  some ({ progress with group }, afterLazyMark rest)

/-- A repetition by counts, behind its brace. -/
def counted? (progress : Progress) (s : List Char) : Option (Progress × List Char) := do
  let flags := progress.flags
  let (least, rest) ← count? flags (skip flags s)
  let (most, rest) ← match rest with
    | ',' :: rest =>
      match skip flags rest with
      | '\x7d' :: rest => some (none, '\x7d' :: rest)
      | rest => do
        let (most, rest) ← count? flags rest
        some (some most, rest)
    | rest => some (some least, rest)
  match rest with
  | '\x7d' :: rest =>
    if most.all (least ≤ ·) then progress.repeated? least most (skip flags rest) else none
  | _ => none

/-- The set of a character outside classes. -/
def charSet? (flags : Flags) (c : Char) : Option CharSet :=
  if flags.ignoreCase then (flags.single? c).map flags.fold else some (.single c)

/-- The set of the dot. -/
def dot? (flags : Flags) : Option CharSet :=
  if flags.dotAll then flags.negate? .none
  else flags.negate? (CharSet.ofChars (if flags.crlf then ['\n', '\r'] else ['\n']))

/-- Reads the next part of a pattern, which begins with `c`. -/
def step? (progress : Progress) (c : Char) (rest : List Char) : Option (Progress × List Char) :=
  let flags := progress.flags
  match c with
  | '(' => progress.group? rest
  | ')' => progress.closeGroup?.map fun progress => (progress, rest)
  | '|' => some ({ progress with group := progress.group.nextAlternative }, rest)
  | '[' => do
    let (chars, rest) ← class? flags (rest.length + 1) rest
    some (progress.add (.set chars), rest)
  | '?' => progress.repeated? 0 (some 1) rest
  | '*' => progress.repeated? 0 none rest
  | '+' => progress.repeated? 1 none rest
  | '\x7b' => progress.counted? rest
  | '.' => do some (progress.add (.set (← dot? flags)), rest)
  | '^' =>
    some (progress.add (.anchor (if flags.multiLine then .lineStart flags.crlf else .textStart)),
      rest)
  | '$' =>
    some (progress.add (.anchor (if flags.multiLine then .lineEnd flags.crlf else .textEnd)), rest)
  | '\\' => do
    let (atom, rest) ← escape? flags rest
    match atom with
    | .char c => some (progress.add (.set (← charSet? flags c)), rest)
    | .class chars => some (progress.add (.set chars), rest)
    | .anchor place => some (progress.add (.anchor place), rest)
  | c => do some (progress.add (.set (← charSet? flags c)), rest)

/-- Reads the parts that are left. -/
def read? : (fuel : Nat) → Progress → List Char → Option Pattern
  | fuel, progress, s =>
    match fuel, skip progress.flags s with
    | _, [] => if progress.outer.isEmpty then some progress.group.pattern else none
    | 0, _ => none
    | fuel + 1, c :: rest =>
      match progress.step? c rest with
      | some (progress, rest) => read? fuel progress rest
      | none => none

end Progress

/-- Reads a pattern; `none` if it is not well formed. -/
def parse? (text : String) (flags : Flags) : Option Pattern :=
  Progress.read? text.toList.length { flags, group := { outerFlags := flags } } text.toList

end Pattern
end PageObjects
