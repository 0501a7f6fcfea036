/-!
# Blank characters

Blank characters separate the words of a query and may surround every name of the catalogue.  This
module says which characters are blank and trims texts.  Trimming removes the longest blank run at
either end and nothing else: what is left neither starts nor ends with a blank, and a text is empty
after trimming exactly when all its characters are blank.
-/

namespace Catalogue.Text

/-- The white-space characters: the ASCII controls that move the cursor or separate records, the
space, and the spaces and line separators of the other scripts. -/
def isBlank (c : Char) : Bool :=
  let n := c.toNat
  (0x9 ≤ n && n ≤ 0xD) || (0x1C ≤ n && n ≤ 0x20) || n == 0x85 || n == 0xA0 || n == 0x1680 ||
    (0x2000 ≤ n && n ≤ 0x200A) || n == 0x2028 || n == 0x2029 || n == 0x202F || n == 0x205F ||
    n == 0x3000

/-- Drops the longest run at the end whose characters all satisfy `p`. -/
def dropRightWhile (p : Char → Bool) (cs : List Char) : List Char :=
  (cs.reverse.dropWhile p).reverse

/-- The characters between the blank runs at both ends. -/
def trimChars (cs : List Char) : List Char :=
  dropRightWhile isBlank (cs.dropWhile isBlank)

/-- The text between the blank runs at both ends. -/
def trim (s : String) : String :=
  String.ofList (trimChars s.toList)

/-- A text is blank when it has no other characters than blanks; the empty text is blank. -/
def isBlankText (s : String) : Bool :=
  s.toList.all isBlank

end Catalogue.Text
