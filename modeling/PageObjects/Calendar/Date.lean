/-
  PageObjects.Calendar.Date

  Days of the Gregorian calendar, extended to all years, and times of a day. A day
  has a number, 1 for the first day of year 1; weekdays and weeks are told from it.
-/

import PageObjects.Text.Numeral
import PageObjects.Text.Split

namespace PageObjects

/-- A day, by year, month and day of the month, months and days counted from 1. -/
structure Date where
  year : Int
  month : Nat
  day : Nat
deriving DecidableEq, Repr

/-- A time of a day. A leap second has the number 60. -/
structure TimeOfDay where
  hour : Nat
  minute : Nat
  second : Nat
  nanosecond : Nat
deriving DecidableEq, Repr

namespace Date

/-- Whether a year has a leap day. -/
def isLeap (year : Int) : Bool :=
  year % 4 == 0 && (year % 100 != 0 || year % 400 == 0)

/-- The lengths of the months of a year. -/
def monthLengths (year : Int) : List Nat :=
  [31, if isLeap year then 29 else 28, 31, 30, 31, 30, 31, 31, 30, 31, 30, 31]

/-- Whether there is such a day. -/
def isValid (date : Date) : Bool :=
  1 ≤ date.month && 1 ≤ date.day
    && ((monthLengths date.year)[date.month - 1]?).any (date.day ≤ ·)

/-- The number of the day in its year, counted from 1. -/
def ordinal (date : Date) : Nat :=
  ((monthLengths date.year).take (date.month - 1)).foldl (· + ·) date.day

/-- The number of days before a year. -/
def daysBefore (year : Int) : Int :=
  let years := year - 1
  365 * years + years / 4 - years / 100 + years / 400

/-- The number of the day, 1 for the first day of year 1. -/
def number (date : Date) : Int :=
  daysBefore date.year + date.ordinal

/-- The days since the last Monday. -/
def daysFromMonday (date : Date) : Nat :=
  ((date.number - 1) % 7).toNat

/-- The days since the last Sunday. -/
def daysFromSunday (date : Date) : Nat :=
  (date.number % 7).toNat

/-- The quarter of the year. -/
def quarter (date : Date) : Nat :=
  (date.month - 1) / 3 + 1

/-- The number of the week in the year, where weeks begin `since` days before the day and the days
    before the first of them are in week 0. -/
def weekFrom (date : Date) (since : Nat) : Nat :=
  (date.ordinal + 6 - since) / 7

/-- Whether a year has 53 weeks, each of them in the year of its Thursday. -/
def isLongYear (year : Int) : Bool :=
  let first : Date := ⟨year, 1, 1⟩
  first.daysFromMonday == 3 || (first.daysFromMonday == 2 && isLeap year)

/-- The number of weeks of a year. -/
def weeksOf (year : Int) : Nat :=
  if isLongYear year then 53 else 52

/-- The week of the day, with the year of its Thursday. -/
def isoWeek (date : Date) : Int × Nat :=
  let week := (date.ordinal + 9 - date.daysFromMonday) / 7
  if week = 0 then (date.year - 1, weeksOf (date.year - 1))
  else if weeksOf date.year < week then (date.year + 1, 1)
  else (date.year, week)

/-! ## Reading -/

/-- A year of four digits, or of more with a sign. -/
def year? : List Char → Option Int
  | '-' :: digits => (Text.digitsNat? 10 digits).map fun n => -(n : Int)
  | '+' :: digits => (Text.digitsNat? 10 digits).map fun n => (n : Int)
  | digits => (Text.digitsNat? 10 digits).map fun n => (n : Int)

/-- A day written as year, month and day with hyphens between them. -/
def parse? (text : List Char) : Option Date := do
  let (sign, unsigned) := match text with
    | '-' :: rest => (['-'], rest)
    | '+' :: rest => (['+'], rest)
    | rest => ([], rest)
  match Text.parts '-' unsigned with
  | [year, month, day] =>
    let date : Date :=
      ⟨← year? (sign ++ year), ← Text.digitsNat? 10 month, ← Text.digitsNat? 10 day⟩
    if date.isValid then some date else none
  | _ => none

end Date

namespace TimeOfDay

/-- A fraction of a second by its digits, in nanoseconds. -/
def nanoseconds? (digits : List Char) : Option Nat :=
  Text.digitsNat? 10 ((digits ++ List.replicate 9 '0').take 9)

/-- A time written as hour, minute and second with colons between them. -/
def parse? (text : List Char) : Option TimeOfDay := do
  let (clock, fraction) := Text.cut '.' text
  match Text.parts ':' clock with
  | [hour, minute, second] =>
    let time : TimeOfDay := {
      hour := ← Text.digitsNat? 10 hour
      minute := ← Text.digitsNat? 10 minute
      second := ← Text.digitsNat? 10 second
      nanosecond := ← nanoseconds? (fraction.getD []) }
    if time.hour < 24 && time.minute < 60 && time.second ≤ 60 then some time else none
  | _ => none

/-- The hour on a clock face of twelve hours. -/
def hour12 (time : TimeOfDay) : Nat :=
  if time.hour % 12 = 0 then 12 else time.hour % 12

/-- The seconds since the day began; a leap second is counted with the one before it. -/
def seconds (time : TimeOfDay) : Nat :=
  time.hour * 3600 + time.minute * 60 + min time.second 59

end TimeOfDay

/-- A day, perhaps with a time of the day. -/
structure Moment where
  date : Date
  time : Option TimeOfDay := none
deriving DecidableEq, Repr

namespace Moment

/-- A day, or a day and a time with a letter between them. -/
def parse? (text : String) : Option Moment := do
  match Text.cut 'T' text.toList with
  | (date, none) => some { date := ← Date.parse? date }
  | (date, some time) => some { date := ← Date.parse? date, time := some (← TimeOfDay.parse? time) }

/-- The seconds since the first day of 1970. -/
def timestamp (date : Date) (time : TimeOfDay) : Int :=
  (date.number - 719163) * 86400 + time.seconds

end Moment

end PageObjects
