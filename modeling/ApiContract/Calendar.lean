import ApiContract.Number.Numeral

/-!
# Dates and timestamps

Dates of the Gregorian calendar in the years 1 to 9999 and times of day with microseconds, with or
without an offset from universal time. `Date.text` and `Timestamp.text` write them in the order year to
second.
-/

namespace ApiContract

open ApiContract.Number

def isLeapYear (year : Nat) : Bool := year % 4 == 0 && (year % 100 != 0 || year % 400 == 0)

def daysInMonth (year month : Nat) : Nat :=
  if month = 2 then (if isLeapYear year then 29 else 28)
  else if month = 4 ∨ month = 6 ∨ month = 9 ∨ month = 11 then 30 else 31

structure Date where
  year : Nat
  month : Nat
  day : Nat
  deriving DecidableEq, Repr, Inhabited

structure TimeOfDay where
  hour : Nat
  minute : Nat
  second : Nat
  microsecond : Nat
  deriving DecidableEq, Repr, Inhabited

/-- A date and time; the offset from universal time is in minutes. -/
structure Timestamp where
  date : Date
  time : TimeOfDay
  offset : Option Int
  deriving DecidableEq, Repr, Inhabited

/-- `n` in decimal with zeros in front up to `width` digits. -/
def padded (width n : Nat) : String :=
  let digits := natText n
  String.ofList (List.replicate (width - digits.length) '0' ++ digits)

namespace Date

/-- The day of the calendar with the given numbers, if there is one. -/
def ofNumbers? (year month day : Nat) : Option Date :=
  if 1 ≤ year ∧ year ≤ 9999 ∧ 1 ≤ month ∧ month ≤ 12 ∧ 1 ≤ day ∧ day ≤ daysInMonth year month then
    some { year, month, day }
  else none

/-- Days from the first day of the year 1. -/
def dayNumber (d : Date) : Nat :=
  let past := d.year - 1
  365 * past + past / 4 - past / 100 + past / 400 +
    ((List.range (d.month - 1)).map fun m => daysInMonth d.year (m + 1)).foldl Nat.add 0 + (d.day - 1)

def text (d : Date) : String := padded 4 d.year ++ "-" ++ padded 2 d.month ++ "-" ++ padded 2 d.day

end Date

namespace TimeOfDay

def ofNumbers? (hour minute second microsecond : Nat) : Option TimeOfDay :=
  if hour ≤ 23 ∧ minute ≤ 59 ∧ second ≤ 59 then some { hour, minute, second, microsecond } else none

/-- Microseconds are written if there are any. -/
def text (t : TimeOfDay) : String :=
  padded 2 t.hour ++ ":" ++ padded 2 t.minute ++ ":" ++ padded 2 t.second ++
    (if t.microsecond = 0 then "" else "." ++ padded 6 t.microsecond)

end TimeOfDay

/-- An offset in hours and minutes with its sign. -/
def offsetText (minutes : Int) : String :=
  (if minutes < 0 then "-" else "+") ++ padded 2 (minutes.natAbs / 60) ++ ":" ++
    padded 2 (minutes.natAbs % 60)

namespace Timestamp

/-- Date and time with `separator` between them. -/
def text (separator : String) (t : Timestamp) : String :=
  t.date.text ++ separator ++ t.time.text ++ (t.offset.map offsetText).getD ""

/-- Date and time to the second in digits, as they stand in the name of a file. -/
def stamp (t : Timestamp) : String :=
  padded 4 t.date.year ++ padded 2 t.date.month ++ padded 2 t.date.day ++ "-" ++
    padded 2 t.time.hour ++ padded 2 t.time.minute ++ padded 2 t.time.second

/-- Minutes of universal time up to the start of the minute. -/
def universalMinutes (t : Timestamp) : Int :=
  (t.date.dayNumber * 1440 + t.time.hour * 60 + t.time.minute : Nat) - t.offset.getD 0

/-- Whether two timestamps with offsets, or two without, name one instant. -/
def sameInstant (s t : Timestamp) : Bool :=
  s.offset.isSome == t.offset.isSome && s.universalMinutes == t.universalMinutes &&
    s.time.second == t.time.second && s.time.microsecond == t.time.microsecond

/-- The form used in compiled output: universal time is written `Z`. -/
def wireText (t : Timestamp) : String :=
  t.date.text ++ "T" ++ t.time.text ++
    (match t.offset with
      | none => ""
      | some minutes => if minutes = 0 then "Z" else offsetText minutes)

end Timestamp

end ApiContract
