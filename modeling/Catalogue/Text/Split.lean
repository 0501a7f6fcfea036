/-!
# Parts of a text

Splitting at a separator, joining with one, and finding one text inside another.  A text with `n`
separators has `n + 1` parts, none of which contains the separator, and joining the parts with the
separator restores the text.
-/

namespace Catalogue.Text

/-- The parts of a text between the occurrences of a separator, empty parts included. -/
def splitChars (separator : Char) : List Char → List (List Char)
  | [] => [[]]
  | c :: rest =>
    if c = separator then
      [] :: splitChars separator rest
    else
      match splitChars separator rest with
      | [] => [[c]]
      | part :: parts => (c :: part) :: parts

/-- The parts of a text between the occurrences of a separator. -/
def split (separator : Char) (s : String) : List String :=
  (splitChars separator s.toList).map String.ofList

/-- Whether `needle` occurs as a contiguous part of the second text. -/
def occursInChars (needle : List Char) : List Char → Bool
  | [] => needle.isEmpty
  | c :: rest => needle.isPrefixOf (c :: rest) || occursInChars needle rest

/-- Whether `needle` occurs as a contiguous part of `text`. -/
def occursIn (needle text : String) : Bool :=
  occursInChars needle.toList text.toList

/-- The texts in order with `separator` between neighbours. -/
def join (separator : String) : List String → String
  | [] => ""
  | s :: rest => rest.foldl (fun text next => text ++ separator ++ next) s

end Catalogue.Text
