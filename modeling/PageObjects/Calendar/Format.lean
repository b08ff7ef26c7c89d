/-
  PageObjects.Calendar.Format

  Dates and times written by a pattern. A percent sign and a letter stand for a
  field; a mark between them changes how a number is padded. A pattern cannot be
  rendered if it has a letter without meaning, a mark where no single number stands,
  or a field of the time where only a day is given.
-/

import PageObjects.Calendar.Date

namespace PageObjects
namespace Calendar

/-- How a number is filled up to its width. -/
inductive Padding where
  | none
  | zero
  | space
deriving DecidableEq, Repr

/-- The fields that are written as numbers. -/
inductive NumberField where
  | year
  | century
  | yearOfCentury
  | isoYear
  | isoYearOfCentury
  | quarter
  | month
  | day
  | weekFromSunday
  | weekFromMonday
  | isoWeek
  | daysFromSunday
  | isoWeekday
  | ordinal
  | hour
  | hour12
  | minute
  | second
  | nanosecond
  | timestamp
deriving DecidableEq, Repr

/-- The fields that are written as words or fractions. -/
inductive TextField where
  | shortMonth
  | longMonth
  | shortWeekday
  | longWeekday
  | lowerHalf
  | upperHalf
  /-- A point and the fraction of the second, by as many groups of three digits as it needs. -/
  | fraction
  /-- The fraction of the second by a number of digits, perhaps behind a point. -/
  | digits (point : Bool) (count : Nat)
deriving DecidableEq, Repr

/-- An item of a pattern. -/
inductive Item where
  | literal (c : Char)
  | number (field : NumberField) (padding : Padding)
  | text (field : TextField)
  /-- What cannot be rendered. -/
  | invalid
deriving DecidableEq, Repr

/-! ## Reading patterns -/

/-- A number filled up with zeros. -/
def zeros (field : NumberField) : Item := .number field .zero

/-- A number filled up with spaces. -/
def spaces (field : NumberField) : Item := .number field .space

/-- A number as it is. -/
def plain (field : NumberField) : Item := .number field .none

/-- The items that a letter stands for. -/
def itemsOf : Char → List Item
  | 'A' => [.text .longWeekday]
  | 'B' => [.text .longMonth]
  | 'C' => [zeros .century]
  | 'D' | 'x' => [zeros .month, .literal '/', zeros .day, .literal '/', zeros .yearOfCentury]
  | 'F' => [zeros .year, .literal '-', zeros .month, .literal '-', zeros .day]
  | 'G' => [zeros .isoYear]
  | 'H' => [zeros .hour]
  | 'I' => [zeros .hour12]
  | 'M' => [zeros .minute]
  | 'P' => [.text .lowerHalf]
  | 'R' => [zeros .hour, .literal ':', zeros .minute]
  | 'S' => [zeros .second]
  | 'T' | 'X' => [zeros .hour, .literal ':', zeros .minute, .literal ':', zeros .second]
  | 'U' => [zeros .weekFromSunday]
  | 'V' => [zeros .isoWeek]
  | 'W' => [zeros .weekFromMonday]
  | 'Y' => [zeros .year]
  | 'a' => [.text .shortWeekday]
  | 'b' | 'h' => [.text .shortMonth]
  | 'c' => [.text .shortWeekday, .literal ' ', .text .shortMonth, .literal ' ', spaces .day,
      .literal ' ', zeros .hour, .literal ':', zeros .minute, .literal ':', zeros .second,
      .literal ' ', zeros .year]
  | 'd' => [zeros .day]
  | 'e' => [spaces .day]
  | 'f' => [zeros .nanosecond]
  | 'g' => [zeros .isoYearOfCentury]
  | 'j' => [zeros .ordinal]
  | 'k' => [spaces .hour]
  | 'l' => [spaces .hour12]
  | 'm' => [zeros .month]
  | 'n' => [.literal '\n']
  | 'p' => [.text .upperHalf]
  | 'q' => [plain .quarter]
  | 'r' => [zeros .hour12, .literal ':', zeros .minute, .literal ':', zeros .second, .literal ' ',
      .text .upperHalf]
  | 's' => [plain .timestamp]
  | 't' => [.literal '\t']
  | 'u' => [plain .isoWeekday]
  | 'v' => [spaces .day, .literal '-', .text .shortMonth, .literal '-', zeros .year]
  | 'w' => [plain .daysFromSunday]
  | 'y' => [zeros .yearOfCentury]
  | '%' => [.literal '%']
  | _ => [.invalid]

/-- The padding that a mark asks for. -/
def padding? : Char → Option Padding
  | '-' => some .none
  | '0' => some .zero
  | '_' => some .space
  | _ => none

/-- A single number with another padding; anything else cannot be padded. -/
def repadded (padding : Padding) : List Item → List Item
  | [.number field _] => [.number field padding]
  | _ => [.invalid]

/-- The items behind a percent sign, and what is left of the pattern. -/
def specifier : List Char → List Item × List Char
  | '.' :: 'f' :: rest => ([.text .fraction], rest)
  | '.' :: '3' :: 'f' :: rest => ([.text (.digits true 3)], rest)
  | '.' :: '6' :: 'f' :: rest => ([.text (.digits true 6)], rest)
  | '.' :: '9' :: 'f' :: rest => ([.text (.digits true 9)], rest)
  | '3' :: 'f' :: rest => ([.text (.digits false 3)], rest)
  | '6' :: 'f' :: rest => ([.text (.digits false 6)], rest)
  | '9' :: 'f' :: rest => ([.text (.digits false 9)], rest)
  | c :: rest =>
    match padding? c, rest with
    | some padding, letter :: rest => (repadded padding (itemsOf letter), rest)
    | some _, [] => ([.invalid], [])
    | none, rest => (itemsOf c, rest)
  | [] => ([.invalid], [])

/-- The items of a pattern, given at least as much fuel as it has characters. -/
def itemsWithin : (fuel : Nat) → List Char → List Item
  | 0, _ => []
  | _ + 1, [] => []
  | fuel + 1, '%' :: rest =>
    let (items, rest) := specifier rest
    items ++ itemsWithin fuel rest
  | fuel + 1, c :: rest => .literal c :: itemsWithin fuel rest

/-- The items of a pattern. -/
def items (pattern : String) : List Item :=
  itemsWithin pattern.toList.length pattern.toList

/-! ## Numbers -/

/-- A text filled up on the left. -/
def fill (c : Char) (width : Nat) (s : List Char) : List Char :=
  List.replicate (width - s.length) c ++ s

/-- The decimal digits of a number. -/
def decimal (n : Nat) : List Char :=
  Nat.toDigits 10 n

/-- A number with at least `width` characters, a sign in front of the zeros. A sign that is asked
    for has a place of its own. -/
def signed (padding : Padding) (width : Nat) (showPlus : Bool) (n : Int) : List Char :=
  let sign := if n < 0 then ['-'] else if showPlus then ['+'] else []
  let width := if showPlus then width + 1 else width
  let digits := decimal n.natAbs
  match padding with
  | .none => sign ++ digits
  | .zero => sign ++ fill '0' (width - sign.length) digits
  | .space => fill ' ' width (sign ++ digits)

/-- A number of one byte by two characters. The tens are counted on from the character `0`, also
    beyond nine. -/
def pair (padding : Padding) (n : Nat) : List Char :=
  let ones := Char.ofNat ('0'.toNat + n % 10)
  match n / 10, padding with
  | 0, .none => [ones]
  | 0, .space => [' ', ones]
  | tens, _ => [Char.ofNat ('0'.toNat + tens), ones]

/-- A year by four digits, with a sign outside of four digits. -/
def yearText (padding : Padding) (year : Int) : List Char :=
  signed padding 4 (year < 0 || 9999 < year) year

/-- The century of a year, as one byte. -/
def centuryByte (year : Int) : Nat :=
  ((year / 100) % 256).toNat

/-- The text of a number field; fields of the time need a time. -/
def numberText? (moment : Moment) (padding : Padding) : NumberField → Option (List Char)
  | .year => some (yearText padding moment.date.year)
  | .century => some (pair padding (centuryByte moment.date.year))
  | .yearOfCentury => some (pair padding (moment.date.year % 100).toNat)
  | .isoYear => some (yearText padding moment.date.isoWeek.1)
  | .isoYearOfCentury => some (pair padding (moment.date.isoWeek.1 % 100).toNat)
  | .quarter => some (decimal moment.date.quarter)
  | .month => some (pair padding moment.date.month)
  | .day => some (pair padding moment.date.day)
  | .weekFromSunday => some (pair padding (moment.date.weekFrom moment.date.daysFromSunday))
  | .weekFromMonday => some (pair padding (moment.date.weekFrom moment.date.daysFromMonday))
  | .isoWeek => some (pair padding moment.date.isoWeek.2)
  | .daysFromSunday => some (decimal moment.date.daysFromSunday)
  | .isoWeekday => some (decimal (moment.date.daysFromMonday + 1))
  | .ordinal => some (signed padding 3 false moment.date.ordinal)
  | .hour => moment.time.map fun time => pair padding time.hour
  | .hour12 => moment.time.map fun time => pair padding time.hour12
  | .minute => moment.time.map fun time => pair padding time.minute
  | .second => moment.time.map fun time => pair padding time.second
  | .nanosecond => moment.time.map fun time => signed padding 9 false time.nanosecond
  | .timestamp =>
    moment.time.map fun time => signed padding 9 false (Moment.timestamp moment.date time)

/-! ## Words -/

/-- The names of the months. -/
def months : List String :=
  ["January", "February", "March", "April", "May", "June", "July", "August", "September", "October",
    "November", "December"]

/-- The names of the weekdays. -/
def weekdays : List String :=
  ["Monday", "Tuesday", "Wednesday", "Thursday", "Friday", "Saturday", "Sunday"]

/-- The name at a position of a list. -/
def nameAt (names : List String) (position : Nat) : List Char :=
  (names.getD position "").toList

/-- The first digits of a fraction of a second. -/
def fractionDigits (time : TimeOfDay) (count : Nat) : List Char :=
  (fill '0' 9 (decimal time.nanosecond)).take count

/-- A point and a fraction of a second by three, six or nine digits; nothing if it is zero. -/
def fractionText (time : TimeOfDay) : List Char :=
  if time.nanosecond = 0 then []
  else if time.nanosecond % 1000000 = 0 then '.' :: fractionDigits time 3
  else if time.nanosecond % 1000 = 0 then '.' :: fractionDigits time 6
  else '.' :: fractionDigits time 9

/-- The text of a text field; fields of the time need a time. -/
def fieldText? (moment : Moment) : TextField → Option (List Char)
  | .shortMonth => some ((nameAt months (moment.date.month - 1)).take 3)
  | .longMonth => some (nameAt months (moment.date.month - 1))
  | .shortWeekday => some ((nameAt weekdays moment.date.daysFromMonday).take 3)
  | .longWeekday => some (nameAt weekdays moment.date.daysFromMonday)
  | .lowerHalf => moment.time.map fun time => (if time.hour < 12 then "am" else "pm").toList
  | .upperHalf => moment.time.map fun time => (if time.hour < 12 then "AM" else "PM").toList
  | .fraction => moment.time.map fractionText
  | .digits point count =>
    moment.time.map fun time => (if point then ['.'] else []) ++ fractionDigits time count

/-! ## Rendering -/

/-- The text of an item. -/
def itemText? (moment : Moment) : Item → Option (List Char)
  | .literal c => some [c]
  | .number field padding => numberText? moment padding field
  | .text field => fieldText? moment field
  | .invalid => none

/-- A moment written by a pattern; `none` if the pattern cannot be rendered. -/
def render? (pattern : String) (moment : Moment) : Option String :=
  ((items pattern).mapM (itemText? moment)).map fun texts => String.ofList texts.flatten

end Calendar
end PageObjects
