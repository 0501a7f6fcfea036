import Catalogue.Json.Basic
import Catalogue.Number.Decimal
import Catalogue.Text.Digit
import Catalogue.Text.Quoted
import Catalogue.Text.Split

/-!
# Writing JSON documents

The compact form of a value: no blanks, fields in their order, and texts with only those characters
escaped that have to be.
-/

namespace Catalogue.Json

/-- One character of a written text.  Quote, backslash and the controls below the space are
escaped, five of the controls with a letter of their own. -/
def writeChar (c : Char) : List Char :=
  if c = '"' then ['\\', '"']
  else if c = '\\' then ['\\', '\\']
  else if c.toNat = 0x8 then ['\\', 'b']
  else if c.toNat = 0x9 then ['\\', 't']
  else if c.toNat = 0xA then ['\\', 'n']
  else if c.toNat = 0xC then ['\\', 'f']
  else if c.toNat = 0xD then ['\\', 'r']
  else if c.toNat < 0x20 then '\\' :: 'u' :: Text.hexDigits 4 c.toNat
  else [c]

/-- A text between quotes. -/
def writeText (s : String) : String :=
  String.ofList ('"' :: s.toList.flatMap writeChar ++ ['"'])

mutual

/-- Whether no integer of a value is too long to be written. -/
def isWritable : Json → Bool
  | .int n => Text.isWritable n
  | .arr items => areWritable items
  | .obj fields => haveWritable fields
  | _ => true

/-- Whether the items of an array can be written. -/
def areWritable : List Json → Bool
  | [] => true
  | item :: rest => isWritable item && areWritable rest

/-- Whether the fields of an object can be written. -/
def haveWritable : List (String × Json) → Bool
  | [] => true
  | (_, value) :: rest => isWritable value && haveWritable rest

end

/-- A number with a fraction or exponent.  The format has no words for infinities and for what is no
number; those that are widely understood are written. -/
def writeFloat : Binary64 → String
  | .negInfinite => "-Infinity"
  | .posInfinite => "Infinity"
  | .notNumber => "NaN"
  | x => x.text

mutual

/-- The compact text of a value. -/
def write : Json → String
  | .null => "null"
  | .bool true => "true"
  | .bool false => "false"
  | .int n => toString n
  | .float x => writeFloat x
  | .str s => writeText s
  | .arr items => "[" ++ Text.join "," (writeItems items) ++ "]"
  | .obj fields => "\x7b" ++ Text.join "," (writeFields fields) ++ "\x7d"

/-- The texts of the items of an array. -/
def writeItems : List Json → List String
  | [] => []
  | item :: rest => write item :: writeItems rest

/-- The texts of the fields of an object. -/
def writeFields : List (String × Json) → List String
  | [] => []
  | (name, value) :: rest => (writeText name ++ ":" ++ write value) :: writeFields rest

end

end Catalogue.Json
