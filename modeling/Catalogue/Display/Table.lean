import Catalogue.Display.StyledText

/-!
# Tables

A table is data: a title, columns, and rows of cells.  Laying it out on a screen is left to the
console.
-/

namespace Catalogue

/-- Where the cells of a column stand. -/
inductive Justify where
  | left
  | right
  deriving DecidableEq, Repr

/-- The name of a justification. -/
def Justify.name : Justify → String
  | .left => "left"
  | .right => "right"

/-- A column of a table. -/
structure Column where
  header : String
  justify : Justify := .left
  style : String := ""
  width : Option Nat := none
  deriving DecidableEq, Repr

/-- The content of a cell: text that may hold markup, or styled text. -/
inductive Cell where
  | markup (s : String)
  | text (t : StyledText)
  deriving DecidableEq, Repr

/-- A table. -/
structure Table where
  title : Option String
  columns : List Column
  rows : List (List Cell)
  deriving DecidableEq, Repr

/-- What the console can print. -/
inductive Renderable where
  | markup (s : String)
  | table (t : Table)
  | text (t : StyledText)
  | group (parts : List Renderable)
  deriving Repr, Inhabited

end Catalogue
