import Catalogue.Text.Case
import Catalogue.Text.Decomposition

/-!
# Collation

Titles and authors are sorted by base letters first, then by accents, then by case, lower case
before upper case.  Each of the three is a text that is compared by code points: the case folding of
the base letters, the case folding of the whole text, and the text with upper and lower case
exchanged.
-/

namespace Catalogue

/-- What texts are sorted by. -/
structure CollationKey where
  /-- The case folding of the characters that are no marks. -/
  base : List Char
  /-- The case folding of the text. -/
  folded : List Char
  /-- The text with upper and lower case exchanged. -/
  swapped : List Char
  deriving DecidableEq, Repr

namespace CollationKey

/-- The key of a text. -/
def ofText (s : String) : CollationKey where
  base := Text.foldChars (Text.baseChars s.toList)
  folded := Text.foldChars s.toList
  swapped := Text.swapChars s.toList

/-- The order of keys: the first component in which they differ decides. -/
def le (a b : CollationKey) : Bool :=
  a.base < b.base || (a.base = b.base &&
    (a.folded < b.folded ||
      (a.folded = b.folded && (a.swapped < b.swapped || a.swapped = b.swapped))))

end CollationKey

end Catalogue
