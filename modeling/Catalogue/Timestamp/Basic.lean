import Catalogue.Calendar
import Catalogue.Number.Binary64

/-!
# Timestamps

A timestamp is a date and a time of day with its offset from UTC.  It stands for an instant, so any
two timestamps can be compared, and it is written in the extended format of ISO 8601.
-/

namespace Catalogue

/-- A date and time of day with its offset from UTC in microseconds. -/
structure Timestamp where
  year : Nat
  month : Nat
  day : Nat
  hour : Nat := 0
  minute : Nat := 0
  second : Nat := 0
  microsecond : Nat := 0
  offset : Int := 0
  deriving DecidableEq, Repr

namespace Timestamp

/-- The microseconds from the beginning of 1970 in UTC. -/
def instant (t : Timestamp) : Int :=
  let days : Int := (Calendar.ordinal t.year t.month t.day : Int) - Calendar.ordinal 1970 1 1
  (days * 86400 + t.hour * 3600 + t.minute * 60 + t.second) * 1000000 + t.microsecond - t.offset

/-- What dates are sorted by: the seconds from the beginning of 1970 as a double, and a value before
all of them for a missing timestamp. -/
def sortKey : Option Timestamp → Binary64
  | some t => .ofRatio t.instant 1000000
  | none => .negInfinite

/-- A number with leading zeros up to a width. -/
def padded (width n : Nat) : String :=
  let digits := toString n
  String.ofList (List.replicate (width - digits.length) '0') ++ digits

/-- A time of day in the extended format; the fraction is left out when it is zero. -/
def clockText (hour minute second microsecond : Nat) : String :=
  padded 2 hour ++ ":" ++ padded 2 minute ++ ":" ++ padded 2 second ++
    (if microsecond = 0 then "" else "." ++ padded 6 microsecond)

/-- The offset as sign, hours and minutes; seconds and a fraction only when they are not zero. -/
def offsetText (offset : Int) : String :=
  let micros := offset.natAbs
  let seconds := micros / 1000000
  let text :=
    if micros % 60000000 = 0 then
      padded 2 (seconds / 3600) ++ ":" ++ padded 2 (seconds / 60 % 60)
    else
      clockText (seconds / 3600) (seconds / 60 % 60) (seconds % 60) (micros % 1000000)
  (if offset < 0 then "-" else "+") ++ text

/-- The timestamp in the extended format of ISO 8601. -/
def isoText (t : Timestamp) : String :=
  padded 4 t.year ++ "-" ++ padded 2 t.month ++ "-" ++ padded 2 t.day ++ "T" ++
    clockText t.hour t.minute t.second t.microsecond ++ offsetText t.offset

/-- The date alone, for tables.  The year is not padded. -/
def dateText (t : Timestamp) : String :=
  toString t.year ++ "-" ++ padded 2 t.month ++ "-" ++ padded 2 t.day

end Timestamp

end Catalogue
