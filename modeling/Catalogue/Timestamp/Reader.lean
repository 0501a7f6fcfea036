import Catalogue.Text.Blank
import Catalogue.Text.Utf8
import Catalogue.Timestamp.Basic

/-!
# Reading timestamps

A record says when it was added in an ISO 8601 text.  This module reads such texts: calendar dates
and week dates, with or without dashes, optionally followed by any one character, a time of day and
an offset from UTC.  A text without an offset is in UTC.  What is read is a valid date of the years
1 to 9999 with a valid time; everything else is no timestamp.
-/

namespace Catalogue

namespace Timestamp

/-- The byte at a position; zero beyond the end. -/
def byteAt (text : List UInt8) (p : Nat) : UInt8 :=
  text.getD p 0

/-- Whether a byte is an ASCII digit. -/
def isDigitByte (b : UInt8) : Bool :=
  0x30 ≤ b && b ≤ 0x39

/-- The number that exactly `n` digits at a position write. -/
def number? (text : List UInt8) (p n : Nat) : Option Nat :=
  let digits := (text.drop p).take n
  if digits.length = n ∧ digits.all isDigitByte then
    some (digits.foldl (fun value b => 10 * value + (b.toNat - 0x30)) 0)
  else
    none

/-- How many digits stand at a position. -/
def digitRun (text : List UInt8) (p : Nat) : Nat :=
  ((text.drop p).takeWhile isDigitByte).length

/-- Where the date ends and the character between date and time stands.  Dashes and the week mark
tell the forms of a date apart. -/
def separatorAt? (text : List UInt8) : Option Nat :=
  if text.length = 7 then
    some 7
  else if byteAt text 4 = 0x2D then
    if byteAt text 5 = 0x57 then
      if 8 < text.length ∧ byteAt text 8 = 0x2D then
        if text.length = 9 then none
        else if isDigitByte (byteAt text 10) then some 8
        else some 10
      else
        some 8
    else
      some 10
  else if byteAt text 4 = 0x57 then
    let stop := 7 + digitRun text 7
    if stop < 9 then some stop
    else if stop % 2 = 0 then some 7
    else some 8
  else
    some 8

/-- The date that ends at `separator`: a year, then a week and perhaps a weekday, or a month and a
day.  A dash after the year asks for dashes between the other parts too. -/
def date? (text : List UInt8) (separator : Nat) : Option (Nat × Nat × Nat) := do
  let year ← number? text 0 4
  let dashed := byteAt text 4 = 0x2D
  let p := if dashed then 5 else 4
  if byteAt text p = 0x57 then
    let week ← number? text (p + 1) 2
    let p := p + 3
    if p < separator then
      if dashed ∧ byteAt text p ≠ 0x2D then none
      let day ← number? text (if dashed then p + 1 else p) 1
      Calendar.ofWeek? year week day
    else
      Calendar.ofWeek? year week 1
  else
    let month ← number? text p 2
    let p := p + 2
    if dashed ∧ byteAt text p ≠ 0x2D then none
    let day ← number? text (if dashed then p + 1 else p) 2
    return (year, month, day)

/-- A time of day or an offset, as written, and whether the text goes on after it. -/
structure Clock where
  hour : Nat := 0
  minute : Nat := 0
  second : Nat := 0
  microsecond : Nat := 0
  continues : Bool := false

/-- The fields that were read, the hour first. -/
def Clock.ofFields (fields : List Nat) (microsecond : Nat) (continues : Bool) : Clock :=
  ⟨fields.getD 0 0, fields.getD 1 0, fields.getD 2 0, microsecond, continues⟩

/-- The digits of a fraction of a second.  Six of them count, further ones are skipped. -/
def fractionAt? (text : List UInt8) (p stop : Nat) (fields : List Nat) : Option Clock := do
  let n := min (stop - p) 6
  let value ← number? text p n
  let next := p + n + digitRun text (p + n)
  return .ofFields fields (value * Nat.pow 10 (6 - n)) (byteAt text next != 0)

/-- Reads up to `left` fields of two digits at `p`.  Whether a colon follows the first field decides
if colons separate them all; after a point or comma, or after the third field, a fraction follows.
-/
def clockAt? (text : List UInt8) (stop : Nat) (colons : Option Bool) (fields : List Nat) :
    (left : Nat) → (p : Nat) → Option Clock
  | 0, p => fractionAt? text p stop fields
  | left + 1, p => do
    let field ← number? text p 2
    let fields := fields ++ [field]
    let next := byteAt text (p + 2)
    let colons := colons.getD (next = 0x3A)
    if stop ≤ p + 3 then
      return .ofFields fields 0 (next != 0)
    else if colons ∧ next = 0x3A then
      clockAt? text stop (some colons) fields left (p + 3)
    else if next = 0x2E ∨ next = 0x2C then
      fractionAt? text (p + 3) stop fields
    else if !colons then
      clockAt? text stop (some colons) fields left (p + 2)
    else
      none

/-- The length of the character that begins with a byte. -/
def characterLength (b : UInt8) : Nat :=
  if b < 0x80 then 1
  else if 0xE0 ≤ b ∧ b < 0xF0 then 3
  else if 0xF0 ≤ b then 4
  else 2

/-- The largest offset from UTC, not included. -/
def offsetBound : Int := 86400 * 1000000

/-- The offset in microseconds that a written clock stands for.  An offset of less than a second is
none, and one of a day or more is no offset. -/
def offset? (negative : Bool) (c : Clock) : Option Int :=
  let seconds : Int := 3600 * c.hour + 60 * c.minute + c.second
  if seconds = 0 then
    some 0
  else
    let micros := seconds * 1000000 + c.microsecond
    if micros < offsetBound then some (if negative then -micros else micros) else none

/-- The time of day and the offset from a position to the end of the text. -/
def timeAndOffset? (text : List UInt8) (p : Nat) : Option (Clock × Int) := do
  let isSign (b : UInt8) := b = 0x2B || b = 0x2D || b = 0x5A
  let sign := p + ((text.drop p).takeWhile (!isSign ·)).length
  let clock ← clockAt? text sign none [] 3 p
  if sign = text.length then
    if clock.continues then none
    return (clock, 0)
  else if byteAt text sign = 0x5A then
    if byteAt text (sign + 1) ≠ 0 then none
    return (clock, 0)
  else
    let written ← clockAt? text text.length none [] 3 (sign + 1)
    if written.continues then none
    return (clock, ← offset? (byteAt text sign = 0x2D) written)

/-- The timestamp that a text without surrounding blanks writes. -/
def ofChars? (cs : List Char) : Option Timestamp := do
  if cs.length < 7 then none
  let text := Text.Utf8.encode cs
  let separator ← separatorAt? text
  let (year, month, day) ← date? text separator
  let (clock, offset) ←
    if separator < text.length then
      timeAndOffset? text (separator + characterLength (byteAt text separator))
    else
      some ({}, 0)
  if Calendar.isDate year month day ∧ clock.hour ≤ 23 ∧ clock.minute ≤ 59 ∧ clock.second ≤ 59 then
    return ⟨year, month, day, clock.hour, clock.minute, clock.second, clock.microsecond, offset⟩
  else
    none

/-- The timestamp that a text writes, blanks around it ignored. -/
def read? (s : String) : Option Timestamp :=
  ofChars? (Text.trimChars s.toList)

end Timestamp

end Catalogue
