/-!
# Double-precision numbers

Every finite double is an integer multiple of one quantum, 2⁻¹⁰⁷⁴, so a double is represented by
that integer.  Sums, products and quotients are computed exactly and then rounded once: to the
nearest number of quanta with at most 53 significant bits, a tie going to the even neighbour.
Values beyond the largest finite double become infinite.  Besides there are a zero below zero, for
what is negative but too small, and one value that is no number, for what has no result.
-/

namespace Catalogue

/-- A double: an integer number of quanta of 2⁻¹⁰⁷⁴, an infinity, negative zero, or no number. -/
inductive Binary64 where
  | negInfinite
  | negZero
  | finite (quanta : Int)
  | posInfinite
  | notNumber
  deriving DecidableEq, Repr, Inhabited

namespace Binary64

/-- The number of quanta in the number one. -/
def unit : Nat := Nat.pow 2 1074

/-- The least number of quanta that is too large for a double. -/
def bound : Nat := Nat.pow 2 2098

/-- The integer nearest to a quotient; of two nearest ones the even one. -/
def roundDiv (num den : Nat) : Nat :=
  let q := num / den
  let r := num % den
  if 2 * r < den then q
  else if den < 2 * r then q + 1
  else q + q % 2

/-- The distance between neighbouring doubles at a number of quanta: one quantum up to 53
significant bits, and a power of two that keeps 53 of them above. -/
def spacing (n : Nat) : Nat :=
  Nat.pow 2 (n.log2 - 52)

/-- The number of quanta nearest to a quotient among those with 53 significant bits. -/
def roundQuotient (num den : Nat) : Nat :=
  let s := spacing (num / den)
  roundDiv num (den * s) * s

/-- The double with a sign and a number of quanta that has 53 significant bits at most. -/
def ofMagnitude (negative : Bool) (n : Nat) : Binary64 :=
  if bound ≤ n then if negative then .negInfinite else .posInfinite
  else if negative then if n = 0 then .negZero else .finite (-(n : Int))
  else .finite n

/-- The double nearest to an exact number of quanta, given as a quotient. -/
def ofQuanta (num : Int) (den : Nat) : Binary64 :=
  ofMagnitude (num < 0) (roundQuotient num.natAbs den)

/-- The double nearest to the quotient of two integers, the second one positive. -/
def ofRatio (num : Int) (den : Nat) : Binary64 :=
  ofQuanta (num * unit) den

/-- The double nearest to a quotient of integers; the divisor may be negative. -/
def quotient (a b : Int) : Binary64 :=
  ofRatio (if b < 0 then -a else a) b.natAbs

/-- The number of quanta of a double that has one. -/
def quanta? : Binary64 → Option Int
  | .negZero => some 0
  | .finite a => some a
  | _ => none

/-- Whether a double has the negative sign. -/
def isNegative : Binary64 → Bool
  | .negInfinite => true
  | .negZero => true
  | .finite a => a < 0
  | .posInfinite => false
  | .notNumber => false

/-- The double with the other sign. -/
def neg : Binary64 → Binary64
  | .negInfinite => .posInfinite
  | .negZero => .finite 0
  | .finite a => if a = 0 then .negZero else .finite (-a)
  | .posInfinite => .negInfinite
  | .notNumber => .notNumber

/-- The rounded sum.  Opposite infinities have none. -/
def add : Binary64 → Binary64 → Binary64
  | .notNumber, _ => .notNumber
  | _, .notNumber => .notNumber
  | .negInfinite, .posInfinite => .notNumber
  | .posInfinite, .negInfinite => .notNumber
  | .negZero, y => y
  | x, .negZero => x
  | .finite a, .finite b => ofQuanta (a + b) 1
  | .finite _, y => y
  | x, _ => x

/-- The rounded product; its sign is that of the exact one.  Zero times infinity has none. -/
def mul (x y : Binary64) : Binary64 :=
  let negative := x.isNegative != y.isNegative
  match x.quanta?, y.quanta? with
  | some a, some b => ofMagnitude negative (roundQuotient (a * b).natAbs unit)
  | a, b =>
    if x = .notNumber ∨ y = .notNumber ∨ a = some 0 ∨ b = some 0 then .notNumber
    else if negative then .negInfinite
    else .posInfinite

/-- The order of doubles by value.  Both zeros are equal, and what is no number is in no order. -/
def le : Binary64 → Binary64 → Bool
  | .notNumber, _ => false
  | _, .notNumber => false
  | .negInfinite, _ => true
  | _, .posInfinite => true
  | .posInfinite, _ => false
  | _, .negInfinite => false
  | x, y => x.quanta?.getD 0 ≤ y.quanta?.getD 0

/-- The least integer that is at least a number of quanta. -/
def ceilQuanta (n : Nat) : Nat :=
  (n + (unit - 1)) / unit

/-- The integer part of a finite double, rounded toward zero. -/
def truncate? (x : Binary64) : Option Int :=
  x.quanta?.map fun a => a.tdiv unit

/-- The double nearest to digits times a power of ten.  Exponents far outside the range of doubles
are decided without computing the power. -/
def ofDecimal (negative : Bool) (digits : Nat) (exponent : Int) : Binary64 :=
  let magnitude :=
    if digits = 0 then 0
    else if 400 < exponent then bound
    else if exponent < -400 - (digits.log2 : Int) then 0
    else if 0 ≤ exponent then roundQuotient (digits * Nat.pow 10 exponent.toNat * unit) 1
    else roundQuotient (digits * unit) (Nat.pow 10 (-exponent).toNat)
  ofMagnitude negative magnitude

/-- The least number of quanta whose leading bit is not stored. -/
def hiddenBit : Nat := Nat.pow 2 52

/-- The bit of the sign. -/
def signBit : Nat := Nat.pow 2 63

/-- The bits of a number of quanta that has 53 significant bits at most: the biased exponent and the
significand without its leading bit. -/
def magnitudeBits (n : Nat) : Nat :=
  if n < hiddenBit then
    n
  else
    let e := n.log2 - 52
    (e + 1) * hiddenBit + (n / Nat.pow 2 e - hiddenBit)

/-- The 64 bits of a double, the sign first. -/
def bits : Binary64 → Nat
  | .negInfinite => signBit + 0x7FF * hiddenBit
  | .negZero => signBit
  | .finite a => (if a < 0 then signBit else 0) + magnitudeBits a.natAbs
  | .posInfinite => 0x7FF * hiddenBit
  | .notNumber => 0x7FF * hiddenBit + hiddenBit / 2

end Binary64

end Catalogue
