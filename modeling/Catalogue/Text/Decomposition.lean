import Catalogue.Text.CombiningTable
import Catalogue.Text.Decomposition.Ideographs
import Catalogue.Text.Decomposition.Scripts
import Catalogue.Text.Decomposition.Supplementary

/-!
# Compatibility decomposition

Letters with marks are taken apart into a base letter and its marks, and compatibility variants are
replaced by the characters they stand for.  The marks of one base letter are then put into canonical
order: by combining class, marks of equal class in the order they came.  Ordering moves marks only,
so the characters of combining class zero are those of the decomposed text in the same order.
-/

namespace Catalogue.Text

namespace Decomposition

/-- The first code point of the precomposed Hangul syllables. -/
def hangulBase : Nat := 0xAC00

/-- Nineteen initial consonants, twenty-one vowels, and twenty-seven final consonants or none. -/
def hangulCount : Nat := 19 * 21 * 28

/-- A Hangul syllable, given by its distance from the first one, is an initial consonant, a vowel
and possibly a final consonant. -/
def hangul (index : Nat) : List Nat :=
  let letters := [0x1100 + index / (21 * 28), 0x1161 + index % (21 * 28) / 28]
  if index % 28 = 0 then letters else letters ++ [0x11A7 + index % 28]

/-- The entries for one page of 256 code points. -/
def page (n : Nat) : List (Nat × List Nat) :=
  if n < 0x30 then scriptsPage n
  else if n < 0x100 then ideographsPage n
  else supplementaryPage n

end Decomposition

/-- The compatibility decomposition of a character; a character without one stands for itself. -/
def decompose (c : Char) : List Char :=
  let n := c.toNat
  if n < 0xA0 then
    [c]
  else if Decomposition.hangulBase ≤ n ∧
      n < Decomposition.hangulBase + Decomposition.hangulCount then
    (Decomposition.hangul (n - Decomposition.hangulBase)).map Char.ofNat
  else
    match (Decomposition.page (n / 256)).lookup n with
    | some ns => ns.map Char.ofNat
    | none => [c]

/-- The canonical combining class of a character; zero for all but the combining marks. -/
def combiningClass (c : Char) : Nat :=
  let n := c.toNat
  if n < 0x300 then
    0
  else
    match combiningRanges.find? fun range => range.1 ≤ n && n ≤ range.2.1 with
    | some range => range.2.2
    | none => 0

/-- Puts a mark before a text whose marks are in canonical order: it passes the marks of a lower
class that follow it without a base letter in between. -/
def insertMark (c : Char) : List Char → List Char
  | [] => [c]
  | d :: rest =>
    if 0 < combiningClass d ∧ combiningClass d < combiningClass c then
      d :: insertMark c rest
    else
      c :: d :: rest

/-- Sorts every run of marks by combining class and keeps the order of marks of one class. -/
def canonicalOrder : List Char → List Char
  | [] => []
  | c :: rest => insertMark c (canonicalOrder rest)

/-- The compatibility normal form of a text, all characters decomposed. -/
def compatibilityForm (cs : List Char) : List Char :=
  canonicalOrder (cs.flatMap decompose)

/-- The characters of the compatibility normal form that are no combining marks. -/
def baseChars (cs : List Char) : List Char :=
  (compatibilityForm cs).filter (combiningClass · = 0)

end Catalogue.Text
