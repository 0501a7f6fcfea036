import Catalogue.Moment
import Catalogue.Setting.Integer
import Catalogue.Text.Utf8

/-!
# Faults of YAML documents

A document may be malformed, and one that is well formed may still write values that do not exist or
that are too large.
-/

namespace Catalogue.Yaml

/-- Why a text is no document, or a document has no value. -/
inductive Fault where
  | malformed
  /-- The bytes are no UTF-8. -/
  | undecodable (e : Text.Utf8Error)
  /-- Blocks and brackets are nested too deeply. -/
  | tooDeep
  /-- An escaped code point is beyond the last character. -/
  | noCharacter
  /-- An escaped code point has more than 31 bits. -/
  | codeTooLarge
  /-- A text that should be a truth value is none. -/
  | notBool (text : String)
  /-- A text that should be a number has nothing but a sign. -/
  | noDigits
  /-- A text has not the digits of a base alone, or no digits at all. -/
  | notInBase (base : Nat) (text : String)
  | numeral (e : Text.NumeralError)
  /-- A text that should be a float is none. -/
  | notFloat (text : String)
  /-- A power of sixty is beyond the range of doubles. -/
  | powerTooLarge
  /-- A text that should be a moment has not the form of one. -/
  | notMoment
  /-- A mapping should be a moment. -/
  | momentInMapping
  | moment (fault : MomentFault)
  deriving DecidableEq, Repr

namespace Fault

/-- A fault in words.  Of a malformed document no more is said. -/
def message : Fault → String
  | .malformed => "Invalid YAML"
  | .undecodable e => e.message
  | .tooDeep => "maximum recursion depth exceeded"
  | .noCharacter => "chr() arg not in range(0x110000)"
  | .codeTooLarge => "Python int too large to convert to C int"
  | .notBool text => Text.quote text
  | .noDigits => "string index out of range"
  | .notInBase base text => notInBaseMessage base (Text.quote text)
  | .numeral e => numeralMessage e
  | .notFloat text => "could not convert string to float: " ++ Text.quote text
  | .powerTooLarge => "int too large to convert to float"
  | .notMoment => "'NoneType' object has no attribute 'groupdict'"
  | .momentInMapping => "expected string or bytes-like object, got 'list'"
  | .moment fault => Moment.faultMessage fault

/-- Whether a fault is one that documents are expected to have: it lies in what they say, and not in
how large something is or in a tag that does not fit. -/
def isExpected : Fault → Bool
  | .malformed => true
  | .undecodable _ => true
  | .noCharacter => true
  | .notInBase _ _ => true
  | .numeral _ => true
  | .notFloat _ => true
  | .moment _ => true
  | _ => false

end Fault

end Catalogue.Yaml
