/-!
# Styled text

Text for the console with spans of styles.  Text is built by appending pieces, each with or without
a style.  The control characters that would move the cursor or ring the bell are taken out of every
piece; a styled piece leaves a span, even when nothing of it is left.
-/

namespace Catalogue

/-- A style over the characters from `start` up to `stop`. -/
structure Span where
  start : Nat
  stop : Nat
  style : String
  deriving DecidableEq, Repr

/-- Text with a style of its own and spans of others. -/
structure StyledText where
  plain : String := ""
  style : String := ""
  spans : List Span := []
  deriving DecidableEq, Repr

namespace StyledText

/-- Bell, backspace, vertical tab, form feed and carriage return are not shown. -/
def isShown (c : Char) : Bool :=
  let n := c.toNat
  !(n == 0x7 || n == 0x8 || n == 0xB || n == 0xC || n == 0xD)

/-- The characters of a piece that are shown. -/
def shown (s : String) : String :=
  String.ofList (s.toList.filter isShown)

/-- A text in one style. -/
def ofText (s : String) (style : String) : StyledText :=
  { plain := shown s, style := style }

/-- Appends a piece; an empty piece changes nothing. -/
def append (t : StyledText) (s : String) (style : Option String) : StyledText :=
  if s = "" then
    t
  else
    let start := t.plain.length
    { t with
      plain := t.plain ++ shown s
      spans :=
        match style with
        | some style => t.spans ++ [⟨start, start + (shown s).length, style⟩]
        | none => t.spans }

/-- Appends pieces of their own styles with a separator between neighbours. -/
def appendAll (separator : String) (t : StyledText) : List (String × String) → StyledText
  | [] => t
  | [(s, style)] => t.append s (some style)
  | (s, style) :: rest => appendAll separator ((t.append s (some style)).append separator none) rest

end StyledText

end Catalogue
