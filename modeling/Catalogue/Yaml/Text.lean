import Catalogue.Yaml.Cursor
import Catalogue.Yaml.Fault

/-!
# Texts of a YAML document

Scalars are written plainly or between quotes, and may go over several lines.  Lines are folded: one
line end is read as a space, and of more than one the first is dropped.  Blanks around a line end do
not count.  Between double quotes a backslash escapes a character, a code point or a line end.
-/

namespace Catalogue.Yaml

/-- What stands between two words of a text: blanks, or line ends with the blanks around them. -/
inductive Gap where
  /-- Blanks on one line, or nothing. -/
  | blanks (cs : List Char)
  /-- Line ends that are folded. -/
  | folded (first : Char) (more : List Char)
  /-- The line ends after an escaped one. -/
  | escaped (more : List Char)

namespace Gap

/-- No gap. -/
def none : Gap := .blanks []

/-- The text that a gap is read as. -/
def text : Gap → List Char
  | .blanks cs => cs
  | .folded first more =>
    if first ≠ '\n' then first :: more else if more.isEmpty then [' '] else more
  | .escaped more => more

/-- A gap after one more blank. -/
def blank (c : Char) : Gap → Gap
  | .blanks cs => .blanks (cs ++ [c])
  | gap => gap

/-- A gap after one more line end. -/
def lineEnd (c : Char) : Gap → Gap
  | .blanks _ => .folded (keptBreak c) []
  | .folded first more => .folded first (more ++ [keptBreak c])
  | .escaped more => .escaped (more ++ [keptBreak c])

/-- Whether there is a gap. -/
def isSome : Gap → Bool
  | .blanks cs => !cs.isEmpty
  | _ => true

/-- Whether a gap goes over a line end. -/
def isBroken : Gap → Bool
  | .blanks _ => false
  | _ => true

end Gap

/-- A text of a document and what is known after it. -/
structure ReadText where
  text : List Char
  after : Cursor
  /-- Whether line ends were passed after the last word. -/
  isBroken : Bool := false

/-- The marks of brackets and of what separates their items. -/
def isFlowMark (c : Char) : Bool :=
  c = ',' || c = '[' || c = ']' || c = '{' || c = '}'

/-- The marks that no plain text starts with. -/
def isReservedMark (c : Char) : Bool :=
  isFlowMark c || "#&*!|>'\"%@".toList.contains c || c.toNat = 0x60

/-- Whether a word of a plain text ends at a character: at a blank, and at a colon that is the mark
of a value.  Within brackets their marks, and the mark of a key, end a word too. -/
def endsWord (inFlow : Bool) (c : Char) (rest : List Char) : Bool :=
  endsMark [c] ||
    (c = ':' && (endsMark rest || (inFlow && (rest.head?.map isFlowMark).getD false))) ||
    (inFlow && (isFlowMark c || c = '?'))

/-- Whether a plain text starts at a character.  A dash, question mark or colon starts one if it is
no mark of its own. -/
def startsPlain (inFlow : Bool) (c : Char) (rest : List Char) : Bool :=
  if c = '-' then !endsMark rest
  else if c = '?' || c = ':' then !inFlow && !endsMark rest
  else !endsMark [c] && !isReservedMark c

/-- Reads on in a plain text, with the characters read before in reverse and the gap after them.
Outside of brackets its lines stand at a least column.  A comment can only follow a gap. -/
def plainFrom (inFlow : Bool) (floor : Nat) (done : List Char) (gap : Gap) (place : Place) :
    List Char → ReadText
  | [] => ⟨done.reverse, ⟨place, []⟩, gap.isBroken⟩
  | c :: rest =>
    if c = ' ' then
      plainFrom inFlow floor done (gap.blank c) (place.after c) rest
    else if isBreak c then
      if startsWithSeparator rest then ⟨done.reverse, ⟨place.after c, rest⟩, true⟩
      else plainFrom inFlow floor done (gap.lineEnd c) (place.after c) rest
    else if endsWord inFlow c rest ||
        (gap.isSome && (c = '#' || (!inFlow && place.column < floor))) then
      ⟨done.reverse, ⟨place, c :: rest⟩, gap.isBroken⟩
    else
      plainFrom inFlow floor (c :: gap.text.reverse ++ done) .none (place.after c) rest

/-- Reads a plain text. -/
def readPlain (inFlow : Bool) (floor : Nat) (c : Cursor) : ReadText :=
  plainFrom inFlow floor [] .none c.place c.rest

/-- How far a quoted text has been read. -/
inductive QuoteState where
  /-- A gap may stand before the next character. -/
  | text (gap : Gap)
  /-- A single quote ends the text, unless another one follows. -/
  | closing
  /-- A backslash was read. -/
  | escape
  /-- Digits of an escaped code point are missing. -/
  | code (missing value : Nat)

/-- The characters that are escaped by a letter or mark. -/
def escapedChar? (c : Char) : Option Char :=
  match c with
  | '0' => some (Char.ofNat 0)
  | 'a' => some (Char.ofNat 0x7)
  | 'b' => some (Char.ofNat 0x8)
  | 't' | '\t' => some '\t'
  | 'n' => some '\n'
  | 'v' => some (Char.ofNat 0xB)
  | 'f' => some (Char.ofNat 0xC)
  | 'r' => some '\r'
  | 'e' => some (Char.ofNat 0x1B)
  | ' ' | '"' | '\\' | '/' => some c
  | 'N' => some (Char.ofNat 0x85)
  | '_' => some (Char.ofNat 0xA0)
  | 'L' => some (Char.ofNat 0x2028)
  | 'P' => some (Char.ofNat 0x2029)
  | _ => none

/-- The number of hexadecimal digits that write a code point after a letter. -/
def codeLength? (c : Char) : Option Nat :=
  match c with
  | 'x' => some 2
  | 'u' => some 4
  | 'U' => some 8
  | _ => none

/-- The value of a hexadecimal digit of either case. -/
def hexValue? (c : Char) : Option Nat :=
  if c.isDigit then some (c.toNat - 0x30)
  else if 'a' ≤ c ∧ c ≤ 'f' then some (c.toNat - 0x61 + 10)
  else if 'A' ≤ c ∧ c ≤ 'F' then some (c.toNat - 0x41 + 10)
  else none

/-- The character with a code point, or in its place. -/
def charOfCode (n : Nat) : Except Fault Char :=
  if Text.isSurrogate n then .ok (Text.ofSurrogate n)
  else if n.isValidChar then .ok (Char.ofNat n)
  else if n < 0x80000000 then .error .noCharacter
  else .error .codeTooLarge

/-- Reads on in a text between quotes, with the characters read before in reverse.  A line within it
must not look like the mark of a document.  If the characters end within the text, the fault is the
given one. -/
def quotedFrom (ending : Fault) (mark : Char) (done : List Char) (state : QuoteState)
    (place : Place) : List Char → Except Fault ReadText
  | [] =>
    match state with
    | .closing => .ok ⟨done.reverse, ⟨place, []⟩, false⟩
    | _ => .error ending
  | c :: rest =>
    let next := place.after c
    match state with
    | .closing =>
      if c = mark then quotedFrom ending mark (c :: done) (.text .none) next rest
      else .ok ⟨done.reverse, ⟨place, c :: rest⟩, false⟩
    | .text gap =>
      let before := gap.text.reverse ++ done
      if isGap c then
        quotedFrom ending mark done (.text (gap.blank c)) next rest
      else if isBreak c then
        if startsWithSeparator rest then .error .malformed
        else quotedFrom ending mark done (.text (gap.lineEnd c)) next rest
      else if c = mark then
        if mark = '"' then .ok ⟨before.reverse, ⟨next, rest⟩, false⟩
        else quotedFrom ending mark before .closing next rest
      else if mark = '"' && c = '\\' then
        quotedFrom ending mark before .escape next rest
      else
        quotedFrom ending mark (c :: before) (.text .none) next rest
    | .escape =>
      if isBreak c then
        if startsWithSeparator rest then .error .malformed
        else quotedFrom ending mark done (.text (.escaped [])) next rest
      else
        match escapedChar? c, codeLength? c with
        | some d, _ => quotedFrom ending mark (d :: done) (.text .none) next rest
        | none, some length => quotedFrom ending mark done (.code length 0) next rest
        | none, none => .error .malformed
    | .code missing value =>
      match hexValue? c with
      | none => .error .malformed
      | some d =>
        let value := value * 16 + d
        if missing = 1 then
          match charOfCode value with
          | .ok c => quotedFrom ending mark (c :: done) (.text .none) next rest
          | .error fault => .error fault
        else
          quotedFrom ending mark done (.code (missing - 1) value) next rest

/-- Reads a text after its opening quote. -/
def readQuoted (ending : Fault) (mark : Char) (c : Cursor) : Except Fault ReadText :=
  quotedFrom ending mark [] (.text .none) c.place c.rest

end Catalogue.Yaml
