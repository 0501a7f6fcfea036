/-!
# Places in a YAML document

In YAML the place of a mark is part of its meaning: the column at which an entry stands says which
block it belongs to, and a key must end on the line on which it begins.  A cursor is a place
together with the characters that follow it.
-/

namespace Catalogue.Yaml

/-- The characters that end a line.  Carriage returns have been replaced by newlines before. -/
def isBreak (c : Char) : Bool :=
  c = '\n' || c.toNat = 0x85 || c.toNat = 0x2028 || c.toNat = 0x2029

/-- A line end as it is kept in a text. -/
def keptBreak (c : Char) : Char :=
  if c.toNat = 0x85 then '\n' else c

/-- A space or a tab. -/
def isGap (c : Char) : Bool :=
  c = ' ' || c = '\t'

/-- Whether a mark of one character ends where these characters follow: at a blank, at the end of a
line, or at the end of the document. -/
def endsMark : List Char → Bool
  | [] => true
  | c :: _ => isGap c || isBreak c

/-- Whether these characters start at a space, at the end of a line, or at the end of the
document. -/
def endsName : List Char → Bool
  | [] => true
  | c :: _ => c = ' ' || isBreak c

/-- Whether a line starts with a mark of three equal characters. -/
def startsWithTriple (mark : Char) : List Char → Bool
  | a :: b :: c :: rest => a = mark && b = mark && c = mark && endsMark rest
  | _ => false

/-- Whether a line starts with one of the two marks that separate documents. -/
def startsWithSeparator (line : List Char) : Bool :=
  startsWithTriple '-' line || startsWithTriple '.' line

/-- A place in a document: the number of characters before it, its line and its column. -/
structure Place where
  index : Nat := 0
  line : Nat := 0
  column : Nat := 0

/-- The mark of byte order, a character without width. -/
def orderMark : Char := Char.ofNat 0xFEFF

/-- The place after a character. -/
def Place.after (p : Place) (c : Char) : Place :=
  if isBreak c then ⟨p.index + 1, p.line + 1, 0⟩
  else if c = orderMark then { p with index := p.index + 1 }
  else { p with index := p.index + 1, column := p.column + 1 }

/-- A place in a document and what follows it. -/
structure Cursor where
  place : Place
  rest : List Char

namespace Cursor

/-- The column. -/
def column (c : Cursor) : Nat := c.place.column

/-- Passes characters from a place on for as long as they have a property. -/
def skipFrom (p : Char → Bool) (place : Place) : List Char → Cursor
  | [] => ⟨place, []⟩
  | c :: rest => if p c then skipFrom p (place.after c) rest else ⟨place, c :: rest⟩

/-- Passes characters for as long as they have a property. -/
def skipWhile (c : Cursor) (p : Char → Bool) : Cursor :=
  skipFrom p c.place c.rest

/-- The characters that have a property, up to the first that has not, and the place after them. -/
def span (c : Cursor) (p : Char → Bool) : List Char × Cursor :=
  (c.rest.takeWhile p, c.skipWhile p)

/-- The place a number of characters further. -/
def drop : Nat → Cursor → Cursor
  | n + 1, ⟨place, c :: rest⟩ => drop n ⟨place.after c, rest⟩
  | _, c => c

/-- The place after the next character. -/
def next (c : Cursor) : Cursor := c.drop 1

/-- Passes spaces, line ends and comments from a place on, and tells whether a line end was among
them. -/
def skipBlanksFrom (comment broken : Bool) (place : Place) : List Char → Bool × Cursor
  | [] => (broken, ⟨place, []⟩)
  | c :: rest =>
    if isBreak c then
      skipBlanksFrom false true (place.after c) rest
    else if comment || c = '#' then
      skipBlanksFrom true broken (place.after c) rest
    else if c = ' ' then
      skipBlanksFrom false broken (place.after c) rest
    else
      (broken, ⟨place, c :: rest⟩)

/-- Passes spaces, line ends and comments, and tells whether a line end was among them. -/
def skipBlanks (c : Cursor) : Bool × Cursor :=
  skipBlanksFrom false false c.place c.rest

/-- Passes the rest of a line on which nothing but a comment may stand. -/
def endLine? (c : Cursor) : Option Cursor :=
  let c := c.skipWhile (· = ' ')
  let c := if c.rest.head? = some '#' then c.skipWhile (!isBreak ·) else c
  match c.rest with
  | [] => some c
  | d :: _ => if isBreak d then some c.next else none

end Cursor

end Catalogue.Yaml
