import Catalogue.Text.Split
import Catalogue.Timestamp.Basic

/-!
# Moments

A moment is a date, alone or with a time of day, which may have an offset from UTC.  It is read from
the extended format of ISO 8601 with a few liberties: months, days and hours may have one digit,
blanks may stand around the time of day, and the offset may be given in hours.  What has the form of
a moment but names no day, no time of day or no offset of less than a day is a fault.
-/

namespace Catalogue

/-- A time of day. -/
structure Clock where
  hour : Nat
  minute : Nat
  second : Nat
  microsecond : Nat
  /-- The offset from UTC in seconds, if there is one. -/
  offset : Option Int
  deriving DecidableEq, Repr

/-- A date, and the time of day if there is one. -/
structure Moment where
  year : Nat
  month : Nat
  day : Nat
  clock : Option Clock
  deriving DecidableEq, Repr

/-- Why a text with the form of a moment stands for none. -/
inductive MomentFault where
  | year
  | month
  | day
  | hour
  | minute
  | second
  /-- The offset, in seconds, is a day or more. -/
  | offset (seconds : Int)
  deriving DecidableEq, Repr

namespace Moment

/-- The seconds of a day. -/
def dayLength : Nat := 86400

/-- A span of time as messages show it: whole days, which may be negative, and the seconds of the
day after them. -/
def shownSpan (seconds : Int) : String :=
  let days := seconds / dayLength
  let rest := seconds % dayLength
  let parts := (if days = 0 then [] else ["days=" ++ toString days]) ++
    (if rest = 0 then [] else ["seconds=" ++ toString rest])
  "datetime.timedelta(" ++ Text.join ", " parts ++ ")"

/-- An offset from UTC as messages show it. -/
def shownOffset (seconds : Int) : String :=
  if seconds = 0 then "datetime.timezone.utc"
  else "datetime.timezone(" ++ shownSpan seconds ++ ")"

/-- A moment as messages show it.  Seconds, and what is smaller, are left out at the end when they
are zero. -/
def shown (m : Moment) : String :=
  let date := [m.year, m.month, m.day].map toString
  match m.clock with
  | none => "datetime.date(" ++ Text.join ", " date ++ ")"
  | some c =>
    let small :=
      if c.microsecond ≠ 0 then [c.second, c.microsecond]
      else if c.second ≠ 0 then [c.second]
      else []
    let offset := c.offset.toList.map fun seconds => "tzinfo=" ++ shownOffset seconds
    let parts := date ++ ([c.hour, c.minute] ++ small).map toString ++ offset
    "datetime.datetime(" ++ Text.join ", " parts ++ ")"

/-- The text of a moment, with a space between the date and the time of day. -/
def text (m : Moment) : String :=
  let date := Text.join "-" [Timestamp.padded 4 m.year, Timestamp.padded 2 m.month,
    Timestamp.padded 2 m.day]
  match m.clock with
  | none => date
  | some c =>
    let offset := c.offset.toList.map fun seconds => Timestamp.offsetText (seconds * 1000000)
    date ++ " " ++ Timestamp.clockText c.hour c.minute c.second c.microsecond ++
      Text.join "" offset

/-- The name of a moment's type in messages. -/
def typeName (m : Moment) : String :=
  if m.clock.isSome then "datetime" else "date"

/-- The microseconds from the beginning of year 0 in UTC up to a moment that has an offset. -/
def instant? (m : Moment) : Option Int := do
  let c ← m.clock
  let offset ← c.offset
  let days : Int := Calendar.ordinal m.year m.month m.day
  let seconds : Int := c.hour * 3600 + c.minute * 60 + c.second
  return (days * dayLength + seconds - offset) * 1000000 + c.microsecond

/-- A fault in words. -/
def faultMessage : MomentFault → String
  | .year => "year 0 is out of range"
  | .month => "month must be in 1..12"
  | .day => "day is out of range for month"
  | .hour => "hour must be in 0..23"
  | .minute => "minute must be in 0..59"
  | .second => "second must be in 0..59"
  | .offset seconds =>
    "offset must be a timedelta strictly between -timedelta(hours=24) and timedelta(hours=24), " ++
      "not " ++ shownSpan seconds ++ "."

/-- The first thing that is wrong with a moment, if any. -/
def fault? (m : Moment) : Option MomentFault :=
  let offset := (m.clock.bind (·.offset)).getD 0
  if dayLength ≤ offset.natAbs then some (.offset offset)
  else if m.year = 0 then some .year
  else if m.month = 0 ∨ 12 < m.month then some .month
  else if !Calendar.isDate m.year m.month m.day then some .day
  else
    match m.clock with
    | none => none
    | some c =>
      if 23 < c.hour then some .hour
      else if 59 < c.minute then some .minute
      else if 59 < c.second then some .second
      else none

/-- The number that decimal digits write. -/
def ofDigits (digits : List Char) : Nat :=
  digits.foldl (fun n c => 10 * n + (c.toNat - 0x30)) 0

/-- Takes a number with a least and a greatest count of digits from the front. -/
def number? (least most : Nat) (cs : List Char) : Option (Nat × List Char) :=
  let digits := (cs.take most).takeWhile Char.isDigit
  if least ≤ digits.length then some (ofDigits digits, cs.drop digits.length) else none

/-- Takes one character from the front. -/
def mark? (mark : Char) : List Char → Option (List Char)
  | c :: rest => if c = mark then some rest else none
  | [] => none

/-- Takes a mark and a number from the front. -/
def markedNumber? (mark : Char) (least most : Nat) (cs : List Char) : Option (Nat × List Char) :=
  (mark? mark cs).bind (number? least most)

/-- Whether a character may stand between a date, a time of day and an offset. -/
def isGap (c : Char) : Bool :=
  c = ' ' || c = '\t'

/-- Takes the fraction of a second from the front; digits below a microsecond are dropped. -/
def fraction (cs : List Char) : Nat × List Char :=
  match cs with
  | '.' :: rest =>
    let digits := rest.takeWhile Char.isDigit
    (ofDigits ((digits ++ List.replicate 6 '0').take 6), rest.dropWhile Char.isDigit)
  | _ => (0, cs)

/-- Reads an offset that ends the text. -/
def offset? (cs : List Char) : Option (Option Int) :=
  match cs, cs.dropWhile isGap with
  | [], _ => some none
  | _, ['Z'] => some (some 0)
  | _, sign :: rest => do
    let (hours, rest) ← number? 1 2 rest
    let (minutes, rest) ← if rest = [] then some (0, []) else markedNumber? ':' 2 2 rest
    let seconds : Int := hours * 3600 + minutes * 60
    if rest ≠ [] then none
    else if sign = '+' then some (some seconds)
    else if sign = '-' then some (some (-seconds))
    else none
  | _, [] => none

/-- Reads a time of day, with the gap before it, that ends the text. -/
def clock? (cs : List Char) : Option Clock := do
  let start ←
    match cs with
    | c :: rest =>
      if c = 'T' ∨ c = 't' then some rest
      else if isGap c then some (rest.dropWhile isGap)
      else none
    | [] => none
  let (hour, rest) ← number? 1 2 start
  let (minute, rest) ← markedNumber? ':' 2 2 rest
  let (second, rest) ← markedNumber? ':' 2 2 rest
  let (microsecond, rest) := fraction rest
  return ⟨hour, minute, second, microsecond, ← offset? rest⟩

/-- Reads a text with the form of a moment, whether there is such a moment or not. -/
def ofText? (cs : List Char) : Option Moment := do
  let (year, rest) ← number? 4 4 cs
  let (month, rest) ← markedNumber? '-' 1 2 rest
  let (day, rest) ← markedNumber? '-' 1 2 rest
  if rest = [] then return ⟨year, month, day, none⟩
  else return ⟨year, month, day, some (← clock? rest)⟩

/-- Whether a text can be seen to be a moment by its form alone: without a time of day, the month
and the day have two digits. -/
def isForm (cs : List Char) : Bool :=
  match ofText? cs with
  | some m => m.clock.isSome || cs.length = 10
  | none => false

end Moment

end Catalogue
