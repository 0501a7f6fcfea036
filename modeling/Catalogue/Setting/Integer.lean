import Catalogue.Setting

/-!
# Integers from settings

A setting that should be an integer may be an integer, a truth value, a number with a fraction,
which is cut off, or a text or bytes that write an integer.
-/

namespace Catalogue

/-- Why a setting gives no integer. -/
inductive IntegerError where
  | numeral (e : Text.NumeralError)
  /-- The setting is a run of bytes that writes no integer. -/
  | malformedBytes (bytes : List UInt8)
  /-- The setting is infinite. -/
  | infinite
  /-- The setting is a float that is no number. -/
  | notFinite
  /-- The setting has a type that gives no integers. -/
  | notNumber (typeName : String)
  deriving DecidableEq, Repr

/-- The greatest number of characters of a refused text that a message shows. -/
def shownNumeralLength : Nat := 200

/-- What is wrong with something that is no integer in a base, given as messages show it. -/
def notInBaseMessage (base : Nat) (shown : String) : String :=
  "invalid literal for int() with base " ++ toString base ++ ": " ++
    String.ofList (shown.toList.take shownNumeralLength)

/-- What is wrong with a numeral, in words. -/
def numeralMessage : Text.NumeralError → String
  | .malformed text => notInBaseMessage 10 (Text.quote text)
  | .tooLong digits =>
    Text.digitLimitText ++ ": value has " ++ toString digits ++ " digits; " ++
      Text.digitLimitAdvice

/-- What went wrong, in words. -/
def IntegerError.message : IntegerError → String
  | .numeral e => numeralMessage e
  | .malformedBytes bytes => notInBaseMessage 10 (Text.quoteBytes bytes)
  | .infinite => "cannot convert float infinity to integer"
  | .notFinite => "cannot convert float NaN to integer"
  | .notNumber typeName =>
    "int() argument must be a string, a bytes-like object or a real number, not '" ++ typeName ++
      "'"

/-- The text of ASCII characters that bytes write; other bytes stand for no digit and no blank. -/
def asciiText (bytes : List UInt8) : String :=
  String.ofList (bytes.map fun b => if b < 0x80 then Char.ofNat b.toNat else Char.ofNat 0)

/-- The integer that a setting gives. -/
def Setting.toInt : Setting → Except IntegerError Int
  | .scalar (.int n) => .ok n
  | .scalar (.bool b) => .ok (if b then 1 else 0)
  | .scalar (.float x) =>
    match x.truncate? with
    | some n => .ok n
    | none => .error (if x = .notNumber then .notFinite else .infinite)
  | .scalar (.placedFloat _) => .error .notFinite
  | .scalar (.moment m) => .error (.notNumber ("datetime." ++ m.typeName))
  | .scalar (.text s) => (Text.readInt s).mapError .numeral
  | .scalar (.bytes bytes) =>
    (Text.readInt (asciiText bytes)).mapError fun e =>
      match e with
      | .malformed _ => .malformedBytes bytes
      | .tooLong digits => .numeral (.tooLong digits)
  | v => .error (.notNumber v.typeName)

end Catalogue
