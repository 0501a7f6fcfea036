import Catalogue.Number.Binary64
import Catalogue.Text.Digit

/-!
# Doubles as people type them

A double is written with decimal digits of any script, a point and a power of ten, or as infinity or
no number by name.  Blanks may stand around it and one sign before it.
-/

namespace Catalogue.Binary64

/-- Takes digits of any script from the front. -/
def digitRun (cs : List Char) : List Nat × List Char :=
  ((cs.takeWhile fun c => (Text.digitValue? c).isSome).filterMap Text.digitValue?,
    cs.dropWhile fun c => (Text.digitValue? c).isSome)

/-- The power of ten after the digits of a double, if there is one. -/
def exponent? : List Char → Option Int
  | [] => some 0
  | e :: exponent =>
    let (negative, digits) := Text.splitSign exponent
    match digitRun digits with
    | (d :: ds, []) =>
      let n : Int := Text.ofDigits (d :: ds)
      if e = 'e' ∨ e = 'E' then some (if negative then -n else n) else none
    | _ => none

/-- The texts for what is no finite number, after a sign. -/
def names : List (String × Binary64) :=
  [("inf", .posInfinite), ("infinity", .posInfinite), ("nan", .notNumber)]

/-- The double that a text without blanks and sign writes. -/
def magnitude? (cs : List Char) : Option Binary64 :=
  match names.lookup (String.ofList (cs.map Char.toLower)) with
  | some x => some x
  | none =>
    let (whole, rest) := digitRun cs
    let (fraction, rest) :=
      match rest with
      | '.' :: rest => digitRun rest
      | _ => ([], rest)
    match whole ++ fraction, exponent? rest with
    | d :: ds, some exponent =>
      some (.ofDecimal false (Text.ofDigits (d :: ds)) (exponent - fraction.length))
    | _, _ => none

/-- The double that a text writes. -/
def ofNumeral? (cs : List Char) : Option Binary64 :=
  let body := Text.dropRightWhile Text.isNumeralBlank (cs.dropWhile Text.isNumeralBlank)
  let (negative, body) := Text.splitSign body
  (magnitude? body).map fun x => if negative then x.neg else x

end Catalogue.Binary64
