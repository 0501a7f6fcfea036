/-!
# The calendar

Dates of the Gregorian calendar: the lengths of months and years, the number of a day counted from
the first day of year 1, and the date of a week date.  Weeks begin on Monday, and the first week of
a year is the one that holds its first Thursday.
-/

namespace Catalogue

namespace Calendar

/-- Leap years of the Gregorian calendar. -/
def isLeap (year : Nat) : Bool :=
  year % 4 == 0 && (year % 100 != 0 || year % 400 == 0)

/-- The lengths of the months. -/
def monthLengths (year : Nat) : List Nat :=
  [31, if isLeap year then 29 else 28, 31, 30, 31, 30, 31, 31, 30, 31, 30, 31]

/-- The number of days of a year. -/
def yearLength (year : Nat) : Nat :=
  if isLeap year then 366 else 365

/-- The number of days before the first day of a year, counted from year 1. -/
def daysBeforeYear (year : Nat) : Nat :=
  let y := year - 1
  y * 365 + y / 4 - y / 100 + y / 400

/-- The number of days from the first day of year 1 to a date, that day counted too. -/
def ordinal (year month day : Nat) : Nat :=
  daysBeforeYear year + ((monthLengths year).take (month - 1)).foldl Nat.add 0 + day

/-- Whether a day exists in the years 1 to 9999. -/
def isDate (year month day : Nat) : Bool :=
  1 ≤ year && year ≤ 9999 && 1 ≤ month && month ≤ 12 && 1 ≤ day &&
    day ≤ (monthLengths year).getD (month - 1) 0

/-- The weekday of the first day of a year, Monday being zero. -/
def firstWeekday (year : Nat) : Nat :=
  daysBeforeYear year % 7

/-- The month and day of a day of the year, counted from zero. -/
def monthDay (lengths : List Nat) (dayOfYear : Nat) : Nat × Nat :=
  match lengths with
  | [] => (1, dayOfYear + 1)
  | n :: rest =>
    if dayOfYear < n then
      (1, dayOfYear + 1)
    else
      let (month, day) := monthDay rest (dayOfYear - n)
      (month + 1, day)

/-- A year has a week 53 when it begins on a Thursday, or on a Wednesday in a leap year. -/
def weekCount (year : Nat) : Nat :=
  if firstWeekday year = 3 ∨ (firstWeekday year = 2 ∧ isLeap year) then 53 else 52

/-- The calendar date of a week date.  Week 1 is the one that holds the first Thursday of the
year, and weeks begin on Monday. -/
def ofWeek? (year week weekday : Nat) : Option (Nat × Nat × Nat) :=
  if year = 0 ∨ week = 0 ∨ weekCount year < week ∨ weekday = 0 ∨ 7 < weekday then
    none
  else
    let first := firstWeekday year
    let monday : Int := if first ≤ 3 then -(first : Int) else 7 - (first : Int)
    let day := monday + (week - 1) * 7 + (weekday - 1)
    let (y, d) :=
      if day < 0 then (year - 1, day + yearLength (year - 1))
      else if day < yearLength year then (year, day)
      else (year + 1, day - yearLength year)
    some (y, monthDay (monthLengths y) d.toNat)

end Calendar

end Catalogue
