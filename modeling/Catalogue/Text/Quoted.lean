import Catalogue.Text.Digit
import Catalogue.Text.Surrogate

/-!
# Quoted texts

Messages show a text between quotes.  Single quotes are used unless the text contains one and has no
double quote.  The quote in use and the backslash are escaped, and so are surrogates and the
characters that cannot be printed, so a quoted text is one line of printable characters.  Bytes are
shown in the same way, with a letter in front, as the ASCII characters that they are.
-/

namespace Catalogue.Text

/-- The lower-case hexadecimal digits of a number, padded with zeros to a width. -/
def hexDigits (width n : Nat) : List Char :=
  let digits := Nat.toDigits 16 n
  List.replicate (width - digits.length) '0' ++ digits

/-- The mark that encloses a text: a single quote, unless the text holds single quotes only. -/
def quoteMark (cs : List Char) : Char :=
  if cs.contains '\'' && !cs.contains '"' then '"' else '\''

/-- One character of a quoted text. -/
def escapeFor (mark c : Char) : List Char :=
  if c = mark || c = '\\' then ['\\', c]
  else if c = '\n' then ['\\', 'n']
  else if c = '\r' then ['\\', 'r']
  else if c = '\t' then ['\\', 't']
  else if isPrintable c then [c]
  else if c.toNat < 0x100 then '\\' :: 'x' :: hexDigits 2 c.toNat
  else if c.toNat < 0x10000 then '\\' :: 'u' :: hexDigits 4 c.toNat
  else
    match surrogate? c with
    | some n => '\\' :: 'u' :: hexDigits 4 n
    | none => '\\' :: 'U' :: hexDigits 8 c.toNat

/-- A text between quotes, as messages show it. -/
def quote (s : String) : String :=
  let mark := quoteMark s.toList
  String.ofList (mark :: s.toList.flatMap (escapeFor mark) ++ [mark])

/-- One byte of quoted bytes. -/
def escapeForByte (mark c : Char) : List Char :=
  if c.toNat < 0x80 then escapeFor mark c else '\\' :: 'x' :: hexDigits 2 c.toNat

/-- Bytes between quotes, as messages show them. -/
def quoteBytes (bytes : List UInt8) : String :=
  let cs := bytes.map fun b => Char.ofNat b.toNat
  let mark := quoteMark cs
  String.ofList ('b' :: mark :: cs.flatMap (escapeForByte mark) ++ [mark])

end Catalogue.Text
