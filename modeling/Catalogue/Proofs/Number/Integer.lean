import Mathlib
import Catalogue.Proofs.Number.Rounding

/-!
# Integers in doubles

Integers of up to 53 bits are doubles (`ofInt_eq_finite`).  As long as no result has more bits, sums
and differences of such doubles are those of the integers, with nothing rounded (`add_ofInt`,
`sub_ofInt`); remainders are exact anyway (`rem_ofInt`).  Operations on bits see a double as a word
of 32 bits, the last ones of its integer part (`word_ofInt`).
-/

namespace Catalogue.Binary64

/-- The double nearest to an integer. -/
def ofInt (n : Int) : Binary64 :=
  .ofRatio n 1

/-- The rounded difference. -/
def sub (x y : Binary64) : Binary64 :=
  x.add y.neg

/-- A double without its sign. -/
def abs (x : Binary64) : Binary64 :=
  if x.isNegative then x.neg else x

/-- The remainder by a positive integer, with the sign of the dividend.  It is a double, so nothing
is rounded. -/
def rem (x : Binary64) (n : Nat) : Binary64 :=
  match x.quanta? with
  | some a => ofMagnitude x.isNegative (a.natAbs % (n * unit))
  | none => .notNumber

/-- The word that a double is for operations on bits: the last 32 bits of its integer part, or zero
if it has none. -/
def word (x : Binary64) : BitVec 32 :=
  BitVec.ofInt 32 (x.truncate?.getD 0)

/-- The word of a double shifted to the left, as a signed integer. -/
def shiftLeft (x : Binary64) (places : Nat) : Binary64 :=
  ofInt (x.word <<< places).toInt

/-- An integer of up to 53 bits is not rounded. -/
theorem roundQuotient_mul_unit {n : Nat} (h : n ≤ 2 ^ 53) :
    roundQuotient (n * unit) 1 = n * unit := by
  have hdouble : spacing (n * unit) ∣ n * unit := by
    rw [unit_eq]
    exact spacing_dvd h le_rfl
  obtain ⟨m, hm⟩ := hdouble
  have hexact : n * unit = m * (1 * spacing (n * unit / 1)) := by
    rw [Nat.one_mul, Nat.div_one, Nat.mul_comm m]
    exact hm
  have hrounded := roundQuotient_of_eq Nat.one_pos hexact
  rwa [Nat.mul_one] at hrounded

theorem mul_unit_lt_bound {n : Nat} (h : n ≤ 2 ^ 53) : n * unit < bound := by
  calc n * unit ≤ 2 ^ 53 * unit := Nat.mul_le_mul_right unit h
    _ = 2 ^ (53 + 1074) := by rw [unit_eq, Nat.pow_add]
    _ < bound := by
      rw [bound, Nat.pow_eq]
      exact Nat.pow_lt_pow_right (by decide) (by decide)

/-- An integer has the sign of its number of quanta. -/
theorem mul_unit_neg_iff {n : Int} : n * unit < 0 ↔ n < 0 := by
  have hunit : (0 : Int) < unit := Int.natCast_pos.mpr unit_pos
  exact lt_iff_lt_of_le_iff_le (mul_nonneg_iff_of_pos_right hunit)

/-- A positive number of quanta within the range of doubles. -/
theorem ofMagnitude_false {n : Nat} (h : n < bound) : ofMagnitude false n = .finite n := by
  rw [ofMagnitude, if_neg (Nat.not_le.mpr h)]
  rfl

/-- A negative number of quanta within the range of doubles. -/
theorem ofMagnitude_true {n : Nat} (h : n < bound) (hpos : 0 < n) :
    ofMagnitude true n = .finite (-n) := by
  rw [ofMagnitude, if_neg (Nat.not_le.mpr h), if_pos rfl, if_neg hpos.ne']

theorem finite_le_finite {a b : Nat} : (finite a).le (finite b) = true ↔ a ≤ b := by
  simp [le, quanta?]

/-- The sum of two numbers of quanta that are not negative. -/
theorem add_finite {a b : Nat} (h : roundQuotient (a + b) 1 < bound) :
    (finite a).add (finite b) = .finite (roundQuotient (a + b) 1) := by
  rw [add, ← Int.natCast_add, ofQuanta, decide_eq_false (Int.not_lt.mpr (Int.natCast_nonneg _)),
    Int.natAbs_natCast, ofMagnitude_false h]

/-- The product of two numbers of quanta that are not negative. -/
theorem mul_finite {a b : Nat} (h : roundQuotient (a * b) unit < bound) :
    (finite a).mul (finite b) = .finite (roundQuotient (a * b) unit) := by
  have hsign : ((finite a).isNegative != (finite b).isNegative) = false := by
    rw [isNegative, isNegative, decide_eq_false (Int.not_lt.mpr (Int.natCast_nonneg a)),
      decide_eq_false (Int.not_lt.mpr (Int.natCast_nonneg b)), bne_self_eq_false]
  rw [mul, hsign]
  dsimp only [quanta?]
  rw [← Int.natCast_mul, Int.natAbs_natCast, ofMagnitude_false h]

/-- An integer of up to 53 bits times the unit is a number of quanta that is kept. -/
theorem ofQuanta_mul_unit {n : Int} (h : n.natAbs ≤ 2 ^ 53) :
    ofQuanta (n * unit) 1 = .finite (n * unit) := by
  have hunit := unit_pos
  have hbound := mul_unit_lt_bound h
  have hmagnitude : (n * unit).natAbs = n.natAbs * unit := by
    rw [Int.natAbs_mul, Int.natAbs_natCast]
  rw [ofQuanta, hmagnitude, roundQuotient_mul_unit h]
  by_cases hsign : n < 0
  · have hnegative : n * unit < 0 := mul_unit_neg_iff.mpr hsign
    have hpos : 0 < n.natAbs * unit := Nat.mul_pos (by omega) hunit
    have habs : (n.natAbs : Int) = -n := by omega
    rw [decide_eq_true hnegative, ofMagnitude_true hbound hpos, Int.natCast_mul, habs,
      Int.neg_mul, Int.neg_neg]
  · have hnonneg : ¬ n * unit < 0 := mt mul_unit_neg_iff.mp hsign
    have habs : (n.natAbs : Int) = n := by omega
    rw [decide_eq_false hnonneg, ofMagnitude_false hbound, Int.natCast_mul, habs]

variable {a b : Int}

/-- **Integers of up to 53 bits** are doubles. -/
theorem ofInt_eq_finite (ha : a.natAbs ≤ 2 ^ 53) : ofInt a = .finite (a * unit) := by
  rw [ofInt, ofRatio]
  exact ofQuanta_mul_unit ha

/-- **Sums** of integers are exact up to 53 bits. -/
theorem add_ofInt (ha : a.natAbs ≤ 2 ^ 53) (hb : b.natAbs ≤ 2 ^ 53)
    (hsum : (a + b).natAbs ≤ 2 ^ 53) : (ofInt a).add (ofInt b) = ofInt (a + b) := by
  rw [ofInt_eq_finite ha, ofInt_eq_finite hb, ofInt_eq_finite hsum, add, ← Int.add_mul,
    ofQuanta_mul_unit hsum]

theorem neg_ofInt (hne : b ≠ 0) (hb : b.natAbs ≤ 2 ^ 53) : (ofInt b).neg = ofInt (-b) := by
  have hunit := unit_pos
  have hquanta : b * unit ≠ 0 := Int.mul_ne_zero hne (by omega)
  rw [ofInt_eq_finite hb, ofInt_eq_finite (by rwa [Int.natAbs_neg]), neg, if_neg hquanta,
    Int.neg_mul]

/-- **Differences** of integers are exact up to 53 bits. -/
theorem sub_ofInt (ha : a.natAbs ≤ 2 ^ 53) (hb : b.natAbs ≤ 2 ^ 53)
    (hdifference : (a - b).natAbs ≤ 2 ^ 53) : (ofInt a).sub (ofInt b) = ofInt (a - b) := by
  by_cases hzero : b = 0
  · -- The other zero is added, which changes nothing.
    have hnone : (Binary64.finite (a * unit)).add .negZero = .finite (a * unit) := rfl
    rw [hzero, Int.sub_zero, sub, ofInt_eq_finite (a := 0) (by decide), Int.zero_mul, neg,
      if_pos rfl, ofInt_eq_finite ha, hnone]
  · rw [Int.sub_eq_add_neg] at hdifference ⊢
    rw [sub, neg_ofInt hzero hb]
    exact add_ofInt ha (by rwa [Int.natAbs_neg]) hdifference

theorem abs_ofInt (ha : a.natAbs ≤ 2 ^ 53) : (ofInt a).abs = ofInt a.natAbs := by
  by_cases hsign : a < 0
  · have hnegative : a * unit < 0 := mul_unit_neg_iff.mpr hsign
    have habs : (a.natAbs : Int) = -a := by omega
    rw [abs, habs, ← neg_ofInt hsign.ne ha, if_pos]
    rw [ofInt_eq_finite ha, isNegative, decide_eq_true hnegative]
  · have hnonneg : ¬ a * unit < 0 := mt mul_unit_neg_iff.mp hsign
    have habs : (a.natAbs : Int) = a := by omega
    rw [abs, habs, if_neg]
    rw [ofInt_eq_finite ha, isNegative, decide_eq_false hnonneg]
    decide

/-- **Remainders** of natural numbers are exact. -/
theorem rem_ofInt {m n : Nat} (h : m ≤ 2 ^ 53) : (ofInt m).rem n = ofInt (m % n : Nat) := by
  have hsmall : m % n ≤ 2 ^ 53 := (Nat.mod_le m n).trans h
  have hnonneg : ¬ (m : Int) * unit < 0 := mt mul_unit_neg_iff.mp (by omega)
  have hsign : (Binary64.finite (m * unit)).isNegative = false := decide_eq_false hnonneg
  have hmagnitude : ((m : Int) * unit).natAbs = m * unit := by
    rw [← Int.natCast_mul, Int.natAbs_natCast]
  rw [ofInt_eq_finite (by rwa [Int.natAbs_natCast]), ofInt_eq_finite (by rwa [Int.natAbs_natCast]),
    rem, hsign, quanta?]
  dsimp only
  rw [hmagnitude, Nat.mul_mod_mul_right, ofMagnitude_false (mul_unit_lt_bound hsmall),
    Int.natCast_mul]

/-- **Words** of integers are their last 32 bits. -/
theorem word_ofInt (ha : a.natAbs ≤ 2 ^ 53) : (ofInt a).word = BitVec.ofInt 32 a := by
  have hunit := unit_pos
  rw [word, ofInt_eq_finite ha, truncate?, quanta?, Option.map_some, Option.getD_some,
    Int.mul_tdiv_cancel a (by omega)]

end Catalogue.Binary64
