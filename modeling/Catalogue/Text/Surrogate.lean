/-!
# Surrogates

The code points from U+D800 to U+DFFF are no characters: in UTF-16, two of them write a character
beyond U+FFFF.  Where a document names one of them all the same, a text holds a private character in
its place, the one with the same position in the last plane of all.
-/

namespace Catalogue.Text

/-- The distance from a surrogate to the private character in its place. -/
def surrogateShift : Nat := 0x100000

/-- Whether a code point is a surrogate. -/
def isSurrogate (n : Nat) : Bool := 0xD800 ≤ n && n ≤ 0xDFFF

/-- The private character in the place of a surrogate. -/
def ofSurrogate (n : Nat) : Char := Char.ofNat (n + surrogateShift)

/-- The surrogate that a private character is in the place of. -/
def surrogate? (c : Char) : Option Nat :=
  let n := c.toNat - surrogateShift
  if isSurrogate n then some n else none

end Catalogue.Text
