/-!
# Terminal codes

Texts may contain codes that tell a terminal to change colours or to move: an escape character and
an opening bracket, then parameters, then marks, and one last character that names the code.  Where
no terminal reads a text they are left out of it.
-/

namespace Catalogue.Text

/-- The character that starts a code. -/
def escapeChar : Char := Char.ofNat 0x1B

/-- How far a code has been read. -/
inductive CodePart where
  /-- Nothing of a code has been read. -/
  | outside
  /-- The escape character has. -/
  | escape
  /-- The bracket has, and maybe some parameters. -/
  | parameters
  /-- At least one mark after the parameters has. -/
  | marks

/-- What a character is to a code. -/
inductive CodeStep where
  /-- It belongs to the code, of which it is this part. -/
  | within (part : CodePart)
  /-- It is the last one of the code. -/
  | last
  /-- There is no code. -/
  | none

/-- What the next character is to a code that has been read so far. -/
def CodePart.step (part : CodePart) (c : Char) : CodeStep :=
  let isParameter := '0' ≤ c && c ≤ '?'
  let isMark := ' ' ≤ c && c ≤ '/'
  let isName := '@' ≤ c && c ≤ '~'
  match part with
  | .outside => .none
  | .escape => if c = '[' then .within .parameters else .none
  | .parameters =>
    if isParameter then .within .parameters
    else if isMark then .within .marks
    else if isName then .last
    else .none
  | .marks => if isMark then .within .marks else if isName then .last else .none

/-- A text without codes.  What may be the beginning of a code is held back in reverse. -/
def dropCodes (part : CodePart) (held : List Char) : List Char → List Char
  | [] => held.reverse
  | c :: rest =>
    if c = escapeChar then
      held.reverse ++ dropCodes .escape [c] rest
    else
      match part.step c with
      | .within part => dropCodes part (c :: held) rest
      | .last => dropCodes .outside [] rest
      | .none => held.reverse ++ c :: dropCodes .outside [] rest

/-- A text without terminal codes. -/
def withoutCodes (s : String) : String :=
  String.ofList (dropCodes .outside [] s.toList)

end Catalogue.Text
