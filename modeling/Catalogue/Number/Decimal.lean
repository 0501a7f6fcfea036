import Catalogue.Number.Binary64

/-!
# Doubles as decimal text

A double is written with the fewest decimal digits that identify it: of all decimals that round to
it, one with the fewest digits, and of those the nearest.  The search runs over the decimal grids of
one, two, and more digits.  A grid has a point that rounds to the double exactly when one of the
value's two neighbours on it does, so these two are tested, in exact integer arithmetic.
-/

namespace Catalogue

namespace Decimal

/-- A positive decimal: an integer times a power of ten. -/
structure Digits where
  coefficient : Nat
  exponent : Int
  deriving DecidableEq, Repr

/-- The sign of `a · 10^i - n / (2 · unit)`, exactly. -/
def compareScaled (a : Nat) (i : Int) (n : Nat) : Ordering :=
  compare (a * Nat.pow 10 i.toNat * (2 * Binary64.unit)) (n * Nat.pow 10 (-i).toNat)

/-- The distance to the double below: at a power of two it is half the distance to the one above. -/
def spacingBelow (n : Nat) : Nat :=
  let s := Binary64.spacing n
  if n = Nat.pow 2 n.log2 ∧ 1 < s then s / 2 else s

/-- Whether a decimal lies among the numbers that round to `n` quanta: between the midpoints to both
neighbours, the midpoints included when the significand is even. -/
def readsBack (n : Nat) (d : Digits) : Bool :=
  let even := n / Binary64.spacing n % 2 = 0
  let low := compareScaled d.coefficient d.exponent (2 * n - spacingBelow n)
  let high := compareScaled d.coefficient d.exponent (2 * n + Binary64.spacing n)
  (low = .gt || (even && low = .eq)) && (high = .lt || (even && high = .eq))

/-- The least power of ten above `n` quanta.  The binary logarithm gives it up to two. -/
def magnitude (n : Nat) : Int :=
  let estimate := ((n.log2 : Int) - 1074) * 30103 / 100000
  ([estimate, estimate + 1].find? fun k => compareScaled 1 k (2 * n) = .gt).getD (estimate + 2)

/-- The nearer of the two neighbours of `n` quanta on the grid of a power of ten, of those that
round to it. -/
def onGrid? (n : Nat) (exponent : Int) : Option Digits :=
  let below := n * Nat.pow 10 (-exponent).toNat / (Nat.pow 10 exponent.toNat * Binary64.unit)
  let lower : Digits := ⟨below, exponent⟩
  let upper : Digits := ⟨below + 1, exponent⟩
  match readsBack n lower, readsBack n upper with
  | false, false => none
  | true, false => some lower
  | false, true => some upper
  | true, true =>
    -- twice the value against the sum of both neighbours
    match compareScaled (2 * below + 1) exponent (4 * n) with
    | .gt => some lower
    | .lt => some upper
    | .eq => some (if below % 2 = 0 then lower else upper)

/-- The shortest decimal that identifies `n` quanta.  Seventeen digits always suffice. -/
def shortest (n : Nat) : Digits :=
  let top := magnitude n
  ((List.range 17).findSome? fun (i : Nat) => onGrid? n (top - (i + 1 : Nat))).getD ⟨n, 0⟩

/-- Moves the zeros at the end of the coefficient into the exponent. -/
def stripZeros (d : Digits) : Digits :=
  let zeros := ((Nat.toDigits 10 d.coefficient).reverse.takeWhile (· = '0')).length
  ⟨d.coefficient / Nat.pow 10 zeros, d.exponent + zeros⟩

/-- How the digits of a number are laid out. -/
structure Layout where
  /-- The least decimal exponent written positionally. -/
  leastPositional : Int
  /-- The least decimal exponent above it that is written with a power of ten again. -/
  firstScientific : Int
  /-- The least number of digits of a written exponent. -/
  exponentWidth : Nat

/-- Numbers are written positionally from 10⁻⁴ up to 10¹⁶, with at least one digit after the point;
otherwise with a signed exponent of two digits or more. -/
def plain : Layout := ⟨-4, 16, 2⟩

/-- Digits with a decimal point before the position `point`. -/
def positional (digits : List Char) (point : Int) : List Char :=
  if point ≤ 0 then
    '0' :: '.' :: List.replicate (-point).toNat '0' ++ digits
  else if digits.length ≤ point.toNat then
    digits ++ List.replicate (point.toNat - digits.length) '0' ++ ['.', '0']
  else
    digits.take point.toNat ++ '.' :: digits.drop point.toNat

/-- Digits with a point after the first one and a power of ten. -/
def scientific (width : Nat) (digits : List Char) (exponent : Int) : List Char :=
  let written := Nat.toDigits 10 exponent.natAbs
  let significand :=
    match digits with
    | d :: e :: rest => d :: '.' :: e :: rest
    | _ => digits
  significand ++ 'e' :: (if exponent < 0 then '-' else '+') ::
    (List.replicate (width - written.length) '0' ++ written)

/-- The text of a decimal. -/
def Layout.render (layout : Layout) (d : Digits) : List Char :=
  let digits := Nat.toDigits 10 d.coefficient
  let exponent := d.exponent + digits.length - 1
  if layout.leastPositional ≤ exponent ∧ exponent < layout.firstScientific then
    positional digits (exponent + 1)
  else
    scientific layout.exponentWidth digits exponent

end Decimal

/-- The text of a double: the shortest digits that identify it. -/
def Binary64.text : Binary64 → String
  | .negInfinite => "-inf"
  | .negZero => "-0.0"
  | .posInfinite => "inf"
  | .notNumber => "nan"
  | .finite 0 => "0.0"
  | .finite a =>
    let digits := Decimal.plain.render (Decimal.stripZeros (Decimal.shortest a.natAbs))
    String.ofList (if a < 0 then '-' :: digits else digits)

end Catalogue
