import Catalogue.Display.Markup
import Catalogue.Display.Table
import Catalogue.Text.Split

/-!
# Plain output

Tables and texts without styles, for a console that knows none.  The cells of a column are padded to
one width, and markup is left out.
-/

namespace Catalogue.Plain

/-- The characters of a text that may hold markup, after a number of backslashes.  Brackets that are
markup are left out up to the closing one; after an odd number of backslashes they stand for
themselves, and two backslashes before a bracket stand for one. -/
def unmarkedAfter (backslashes : Nat) (inTag : Bool) : List Char → List Char
  | [] => List.replicate backslashes '\\'
  | c :: rest =>
    if inTag then
      unmarkedAfter 0 (c ≠ ']') rest
    else if c = '\\' then
      unmarkedAfter (backslashes + 1) false rest
    else if c = '[' && Markup.opensTag rest then
      List.replicate (backslashes / 2) '\\' ++
        (if backslashes % 2 = 0 then unmarkedAfter 0 true rest else c :: unmarkedAfter 0 false rest)
    else
      List.replicate backslashes '\\' ++ c :: unmarkedAfter 0 false rest

/-- A text without its markup. -/
def unmarked (s : String) : String :=
  String.ofList (unmarkedAfter 0 false s.toList)

/-- The text of a cell. -/
def cellText : Cell → String
  | .markup s => unmarked s
  | .text t => t.plain

/-- A text padded to a width. -/
def padded (justify : Justify) (width : Nat) (s : String) : String :=
  let padding := String.ofList (List.replicate (width - s.length) ' ')
  match justify with
  | .left => s ++ padding
  | .right => padding ++ s

/-- The widths that rows of texts need, column by column. -/
def widths : List (List String) → List Nat
  | [] => []
  | row :: rest =>
    let more := widths rest
    (row.map String.length).zipIdx.map fun (width, index) => max width (more[index]?.getD 0)

/-- A row of texts as a line. -/
def line (columns : List Column) (widths : List Nat) (row : List String) : String :=
  Text.join "  " (((columns.zip widths).zip row).map fun ((column, width), s) =>
    padded column.justify width s)

/-- The lines of a table: the title, the headers, and the rows. -/
def tableLines (t : Table) : List String :=
  let rows := t.columns.map (·.header) :: t.rows.map (·.map cellText)
  t.title.toList ++ rows.map (line t.columns (widths rows))

mutual

/-- The lines of anything that can be printed. -/
def lines : Renderable → List String
  | .markup s => [unmarked s]
  | .table t => tableLines t
  | .text t => [t.plain]
  | .group parts => linesOfAll parts

/-- The lines of parts one after the other. -/
def linesOfAll : List Renderable → List String
  | [] => []
  | part :: rest => lines part ++ linesOfAll rest

end

end Catalogue.Plain
