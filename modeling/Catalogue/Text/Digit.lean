import Catalogue.Text.Blank
import Catalogue.Text.GlyphTable

/-!
# Integers as text

Reading an integer the way a person types it: blanks around it, one sign, decimal digits of any
script, and single underscores between digits to group them.  Writing uses the ASCII digits.
Neither is done for integers of more than 4300 digits.
-/

namespace Catalogue.Text

/-- The value of a decimal digit of any script. -/
def digitValue? (c : Char) : Option Nat :=
  let n := c.toNat
  if n < 0x80 then
    if c.isDigit then some (n - 0x30) else none
  else
    (digitZeros.find? fun z => z ≤ n && n < z + 10).map (n - ·)

/-- What is wrong with a text that should be an integer. -/
inductive NumeralError where
  /-- The text is no integer. -/
  | malformed (text : String)
  /-- The integer has more digits than are read. -/
  | tooLong (digits : Nat)
  deriving DecidableEq, Repr

/-- The largest number of digits that is read. -/
def maxDigits : Nat := 4300

/-- The blanks that may surround an integer: the information separators of ASCII are not among
them. -/
def isNumeralBlank (c : Char) : Bool :=
  isBlank c && !(0x1C ≤ c.toNat && c.toNat ≤ 0x1F)

/-- Digits with single underscores between them.  The flag says whether the last character was a
digit, so that an underscore or the end may follow. -/
def groupedDigits? (afterDigit : Bool) : List Char → Option (List Nat)
  | [] => if afterDigit then some [] else none
  | c :: rest =>
    if c = '_' then
      if afterDigit then groupedDigits? false rest else none
    else
      match digitValue? c with
      | some d => (groupedDigits? true rest).map (d :: ·)
      | none => none

/-- The number that a list of decimal digits writes, most significant first. -/
def ofDigits (digits : List Nat) : Nat :=
  digits.foldl (fun n d => 10 * n + d) 0

/-- Splits one leading sign from a numeral; the flag says whether it is a minus. -/
def splitSign : List Char → Bool × List Char
  | '-' :: rest => (true, rest)
  | '+' :: rest => (false, rest)
  | cs => (false, cs)

/-- Whether a character can stand among the digits of an integer. -/
def isNumeralPart (c : Char) : Bool :=
  c = '_' || (digitValue? c).isSome

/-- The integer that a text writes.  Digits are counted before what follows them is looked at. -/
def readInt (text : String) : Except NumeralError Int :=
  let (negative, body) := splitSign (text.toList.dropWhile isNumeralBlank)
  match groupedDigits? false (body.takeWhile isNumeralPart) with
  | none => .error (.malformed text)
  | some ds =>
    if maxDigits < ds.length then
      .error (.tooLong ds.length)
    else if (body.dropWhile isNumeralPart).all isNumeralBlank then
      .ok (if negative then -(ofDigits ds : Int) else ofDigits ds)
    else
      .error (.malformed text)

/-- The limit on digits in words. -/
def digitLimitText : String :=
  "Exceeds the limit (" ++ toString maxDigits ++ " digits) for integer string conversion"

/-- What can be done about the limit on digits. -/
def digitLimitAdvice : String :=
  "use sys.set_int_max_str_digits() to increase the limit"

/-- What is wrong with an integer that is too long to be written. -/
def unwritableMessage : String :=
  digitLimitText ++ "; " ++ digitLimitAdvice

/-- Whether an integer has so few digits that it can be written. -/
def isWritable (n : Int) : Bool :=
  n.natAbs < Nat.pow 10 maxDigits

/-- The decimal text of an integer that can be written. -/
def integerText? (n : Int) : Option String :=
  if isWritable n then some (toString n) else none

/-- Whether a character has a glyph of its own or is the space. -/
def isPrintable (c : Char) : Bool :=
  !unprintableRanges.any fun range => range.1 ≤ c.toNat && c.toNat ≤ range.2

end Catalogue.Text
