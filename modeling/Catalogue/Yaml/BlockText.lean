import Catalogue.Yaml.Text

/-!
# Block texts

A text may stand in lines of its own below the place where it belongs.  A bar keeps its line ends; a
greater-than sign folds those between lines that do not start with a blank.  All lines stand at one
column: that of the first line, or a number of columns that is written after the mark.  A sign there
says what becomes of the line ends after the last line.
-/

namespace Catalogue.Yaml

/-- What becomes of the line ends after the last line of a block text. -/
inductive Trailing where
  | dropped
  /-- One is kept. -/
  | single
  | kept
  deriving DecidableEq

/-- What stands after the mark of a block text. -/
structure BlockHeader where
  trailing : Trailing := .single
  /-- How much further to the right than the block around it the lines stand. -/
  indentation : Option Nat := none

namespace BlockHeader

/-- Adds what a character of a header says, if it has not been said before. -/
def add (h : BlockHeader) (c : Char) : Option BlockHeader :=
  if c = '+' || c = '-' then
    if h.trailing = .single then
      some { h with trailing := if c = '+' then .kept else .dropped }
    else
      none
  else if c = '0' || h.indentation.isSome then
    none
  else
    some { h with indentation := some (c.toNat - 0x30) }

/-- Reads a header with the rest of its line. -/
def read? (c : Cursor) : Option (BlockHeader × Cursor) := do
  let (marks, after) := c.span fun d => d = '+' || d = '-' || d.isDigit
  let header ← marks.foldlM add {}
  if endsName after.rest then
    return (header, ← after.endLine?)
  else
    none

end BlockHeader

/-- Passes spaces and line ends from a place on, and tells the line ends and the greatest column
that was reached. -/
def leadingLines (column : Nat) (place : Place) : List Char → List Char × Nat × Cursor
  | [] => ([], column, ⟨place, []⟩)
  | c :: rest =>
    if c = ' ' then
      leadingLines (max column (place.after c).column) (place.after c) rest
    else if isBreak c then
      let (breaks, column, after) := leadingLines column (place.after c) rest
      (keptBreak c :: breaks, column, after)
    else
      ([], column, ⟨place, c :: rest⟩)

/-- Passes line ends from a place on, and spaces in front of a column, and tells the line ends. -/
def blankLines (column : Nat) (place : Place) : List Char → List Char × Cursor
  | [] => ([], ⟨place, []⟩)
  | c :: rest =>
    if c = ' ' && place.column < column then
      blankLines column (place.after c) rest
    else if isBreak c then
      let (breaks, after) := blankLines column (place.after c) rest
      (keptBreak c :: breaks, after)
    else
      ([], ⟨place, c :: rest⟩)

/-- Whether these characters start with a blank. -/
def startsWithGap (cs : List Char) : Bool :=
  (cs.head?.map isGap).getD false

/-- Reads the lines of a block text from a place on, where `breaks` are the line ends before the
first of them.  Every line takes one unit of fuel. -/
def blockLines (fuel : Nat) (folded : Bool) (trailing : Trailing) (column : Nat)
    (breaks : List Char) (c : Cursor) : List Char × Cursor :=
  match fuel with
  | 0 => ([], c)
  | fuel + 1 =>
    let (line, after) := c.span (!isBreak ·)
    let ending := (after.rest.head?.map keptBreak).toList
    let (more, next) := blankLines column after.next.place after.next.rest
    if next.column = column ∧ next.rest ≠ [] then
      let isFolded := folded && ending = ['\n'] && !startsWithGap line && !startsWithGap next.rest
      let joint := if !isFolded then ending else if more.isEmpty then [' '] else []
      let (text, last) := blockLines fuel folded trailing column more next
      (breaks ++ line ++ joint ++ text, last)
    else
      let kept :=
        match trailing with
        | .dropped => []
        | .single => ending
        | .kept => ending ++ more
      (breaks ++ line ++ kept, next)

/-- Reads a block text after its mark.  Its lines stand at a least column. -/
def readBlock? (folded : Bool) (floor : Nat) (c : Cursor) : Option (List Char × Cursor) := do
  let (header, start) ← BlockHeader.read? c
  let floor := max floor 1
  let (breaks, column, first) :=
    match header.indentation with
    | some n =>
      let (breaks, first) := blankLines (floor + n - 1) start.place start.rest
      (breaks, floor + n - 1, first)
    | none =>
      let (breaks, column, first) := leadingLines 0 start.place start.rest
      (breaks, max floor column, first)
  if first.column = column ∧ first.rest ≠ [] then
    return blockLines (first.rest.length + 1) folded header.trailing column breaks first
  else
    return (if header.trailing = .kept then breaks else [], first)

end Catalogue.Yaml
