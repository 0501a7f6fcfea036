import Catalogue.Number.Numeral
import Catalogue.Text.Base64
import Catalogue.Text.Case
import Catalogue.Text.Split
import Catalogue.Yaml.Tag
import Catalogue.Yaml.Text

/-!
# Scalars of a YAML document

What a text without quotes stands for: nothing, a truth value, a number, a moment, or itself.
Integers may be written in base two, eight, ten or sixteen, or in base sixty with colons; a number
with a point is a float, and may be in base sixty too.  Underscores between digits are ignored.  The
form of a text decides about its kind, unless a tag does; its value is found after that and may not
exist.  The value of a number has more forms than those by which numbers are known.
-/

namespace Catalogue.Yaml

/-- The plain texts for nothing. -/
def nullTexts : List String :=
  ["~", "null", "Null", "NULL"]

/-- The texts for the truth values. -/
def boolTexts : List (String × Bool) :=
  [("yes", true), ("no", false), ("true", true), ("false", false), ("on", true), ("off", false)]

/-- The plain texts for the truth values: in lower case, in upper case, or with a capital. -/
def plainBoolTexts : List String :=
  boolTexts.flatMap fun (name, _) => [name, name.capitalize, name.toUpper]

/-- The marks that have a tag of their own, which no value has. -/
def markTexts : List String :=
  ["!", "&", "*"]

/-- The plain texts for infinity, after a sign. -/
def infinityTexts : List String :=
  [".inf", ".Inf", ".INF"]

/-- The plain texts for a float that is no number. -/
def notNumberTexts : List String :=
  [".nan", ".NaN", ".NAN"]

/-- A decimal digit or an underscore. -/
def isDigitOrGap (c : Char) : Bool :=
  c.isDigit || c = '_'

/-- Whether a text has at least one digit of a base or underscore, and nothing else. -/
def isInBase (base : Nat) (cs : List Char) : Bool :=
  !cs.isEmpty && cs.all fun c => c = '_' || (hexValue? c).any (· < base)

/-- Whether a text starts with a digit and has only digits and underscores. -/
def isDecimal (cs : List Char) : Bool :=
  (cs.head?.map Char.isDigit).getD false && cs.all isDigitOrGap

/-- Whether a text is one of the later digits of a number in base sixty: one or two decimal digits
below sixty. -/
def isSixtieth : List Char → Bool
  | [c] => c.isDigit
  | [c, d] => '0' ≤ c && c ≤ '5' && d.isDigit
  | _ => false

/-- Whether a text has the form of an integer without a sign. -/
def isNatural : List Char → Bool
  | '0' :: 'b' :: digits => isInBase 2 digits
  | '0' :: 'x' :: digits => isInBase 16 digits
  | ['0'] => true
  | '0' :: digits => isInBase 8 digits
  | cs =>
    match Text.splitChars ':' cs with
    | first :: more => isDecimal first && more.all isSixtieth
    | [] => false

/-- Whether a text has the form of a power of ten after the digits of a float, or is empty. -/
def isExponent : List Char → Bool
  | [] => true
  | [_] => false
  | e :: sign :: digits =>
    (e = 'e' || e = 'E') && (sign = '+' || sign = '-') && !digits.isEmpty && digits.all Char.isDigit

/-- Whether a text has the form of a float without a sign that starts with a digit. -/
def isMagnitude (cs : List Char) : Bool :=
  let whole := cs.takeWhile (· ≠ '.')
  match cs.dropWhile (· ≠ '.'), Text.splitChars ':' whole with
  | _ :: fraction, first :: more =>
    let exponent := fraction.dropWhile isDigitOrGap
    isDecimal first && more.all isSixtieth &&
      (if more.isEmpty then isExponent exponent else exponent.isEmpty)
  | _, _ => false

/-- Whether a text has the form of a float.  The point may stand first if no sign precedes it. -/
def isFloat (cs : List Char) : Bool :=
  let (_, magnitude) := Text.splitSign cs
  notNumberTexts.contains (String.ofList cs) || infinityTexts.contains (String.ofList magnitude) ||
    isMagnitude magnitude ||
    match cs with
    | '.' :: fraction => isMagnitude ('0' :: '.' :: fraction) && isDecimal (fraction.take 1)
    | _ => false

/-- The kind of value that a line stands for. -/
def Tag.ofLine (line : String) : Tag :=
  let cs := line.toList
  if nullTexts.contains line then .null
  else if line = "<<" then .merge
  else if line = "=" then .default
  else if markTexts.contains line then .foreign
  else if plainBoolTexts.contains line then .bool
  else if isFloat cs then .float
  else if isNatural (Text.splitSign cs).2 then .int
  else if Moment.isForm cs then .moment
  else .text

/-- A text without a line end as its last character. -/
def withoutLineEnd (text : String) : String :=
  match text.toList.reverse with
  | '\n' :: rest => String.ofList rest.reverse
  | _ => text

/-- The kind of value that a plain text stands for.  A line end after it does not count. -/
def Tag.ofPlain (text : String) : Tag :=
  if text = "" then .null else .ofLine (withoutLineEnd text)

/-- The value of a digit of a base, in any script. -/
def digitIn? (base : Nat) (c : Char) : Option Nat :=
  (Text.digitValue? c <|> hexValue? c).filter (· < base)

/-- The number that a text writes in a base.  The letter of the base may stand in front of it once
more, after a zero. -/
def inBase (base : Nat) (letter : Char) (text : List Char) : Except Fault Int :=
  let (negative, body) := Text.splitSign (text.dropWhile Text.isNumeralBlank)
  let body :=
    match body with
    | '0' :: c :: rest => if c.toLower = letter then rest else body
    | _ => body
  match (Text.dropRightWhile Text.isNumeralBlank body).mapM (digitIn? base) with
  | some (d :: ds) =>
    let n := (d :: ds).foldl (fun n d => n * base + d) 0
    .ok (if negative then -(n : Int) else n)
  | _ => .error (.notInBase base (String.ofList text))

/-- The number with some decimal digits. -/
def decimal (digits : List Char) : Except Fault Int :=
  (Text.readInt (String.ofList digits)).mapError .numeral

/-- The value of an integer without a sign and underscores. -/
def naturalValue : List Char → Except Fault Int
  | [] => .error .noDigits
  | ['0'] => .ok 0
  | '0' :: 'b' :: digits => inBase 2 'b' digits
  | '0' :: 'x' :: digits => inBase 16 'x' digits
  | '0' :: digits => inBase 8 'o' ('0' :: digits)
  | cs => (Text.splitChars ':' cs).foldlM (fun n part => (decimal part).map (n * 60 + ·)) 0

/-- The value of an integer. -/
def integerValue (text : String) : Except Fault Int :=
  let (negative, digits) := Text.splitSign (text.toList.filter (· ≠ '_'))
  (naturalValue digits).map fun n => if negative then -n else n

/-- The value of one part of a float. -/
def floatPart (cs : List Char) : Except Fault Binary64 :=
  match Binary64.ofNumeral? cs with
  | some x => .ok x
  | none => .error (.notFloat (String.ofList cs))

/-- A power of sixty as a double. -/
def sixtyToThe (n : Nat) : Except Fault Binary64 :=
  match Binary64.ofRatio (Nat.pow 60 n) 1 with
  | .posInfinite => .error .powerTooLarge
  | x => .ok x

/-- The value of a number in base sixty, from its last part on, of which `place` parts have been
added up.  Every product and every sum is rounded. -/
def sexagesimal (place : Nat) (value : Binary64) : List Binary64 → Except Fault Binary64
  | [] => .ok value
  | part :: rest => do
    let power ← sixtyToThe place
    sexagesimal (place + 1) (value.add (part.mul power)) rest

/-- The value of a float without a sign and underscores. -/
def magnitudeValue (cs : List Char) : Except Fault Binary64 := do
  match ← (Text.splitChars ':' cs).mapM floatPart with
  | [x] => return x
  | parts => sexagesimal 0 (.finite 0) parts.reverse

/-- The value of a float that is written at some place.  What is no number by its mark is the same
everywhere. -/
def floatValue (place : Nat) (text : String) : Except Fault Scalar := do
  let written := Text.lowerChars (text.toList.filter (· ≠ '_'))
  if written = [] then throw .noDigits
  let (negative, cs) := Text.splitSign written
  match String.ofList cs with
  | ".nan" => return .float .notNumber
  | ".inf" => return .float (if negative then .negInfinite else .posInfinite)
  | _ =>
    let x ← magnitudeValue cs
    if x = .notNumber then return .placedFloat place
    else return .float (if negative then x.neg else x)

/-- The value of a moment. -/
def momentValue (text : String) : Except Fault Moment :=
  match Moment.ofText? (withoutLineEnd text).toList with
  | none => .error .notMoment
  | some m =>
    match m.fault? with
    | some fault => .error (.moment fault)
    | none => .ok m

/-- The value of a truth value.  Its text may be in any case. -/
def boolValue (text : String) : Except Fault Bool :=
  match boolTexts.lookup (Text.lower text) with
  | some b => .ok b
  | none => .error (.notBool (Text.lower text))

/-- The bytes that a text of ASCII characters writes. -/
def bytesValue (text : String) : Except Fault (List UInt8) :=
  let cs := text.toList
  match if cs.all fun c => c.toNat < 0x80 then Text.Base64.decode cs else none with
  | some bytes => .ok bytes
  | none => .error .malformed

/-- The value of a text of some kind that is written at some place. -/
def scalarValue (tag : Tag) (place : Nat) (text : String) : Except Fault Scalar :=
  match tag with
  | .null => .ok .null
  | .text => .ok (.text text)
  | .bool => (boolValue text).map .bool
  | .int => (integerValue text).map .int
  | .float => floatValue place text
  | .moment => (momentValue text).map .moment
  | .bytes => (bytesValue text).map .bytes
  | _ => .error .malformed

end Catalogue.Yaml
