import Mathlib
import Catalogue.Proofs.Number.Integer
import Catalogue.Proofs.Number.Nearest
import Catalogue.Proofs.Number.Order

/-!
# Ratios of integers as doubles

A ratio of integers that is not too large becomes a finite double, its magnitude rounded and its
sign kept (`ofRatio_eq_finite`).  The sign changes nothing about rounding: ratios keep their order
(`roundRatio_mono`), and no double is nearer (`roundRatio_nearest`).  Two different ratios of the
same divisor are different doubles where the spacing of the doubles is less than the distance of the
ratios (`roundRatio_lt`): up to there rounding moves each ratio by less than half of that distance
(`dist_roundRatio_lt`).
-/

namespace Catalogue.Binary64

/-- The quanta that a ratio is rounded to. -/
def roundRatio (num : Int) (den : Nat) : Int :=
  num.sign * roundQuotient (num.natAbs * unit) den

variable {num a b : Int} {den e : Nat}

/-- Rounding is symmetric about zero. -/
theorem roundRatio_neg (num : Int) (den : Nat) : roundRatio (-num) den = -roundRatio num den := by
  rw [roundRatio, roundRatio, Int.sign_neg, Int.natAbs_neg, Int.neg_mul]

theorem roundQuotient_zero (den : Nat) : roundQuotient 0 den = 0 := by
  simp [roundQuotient, roundDiv]

/-- A ratio that is not negative is rounded as a quotient of natural numbers. -/
theorem roundRatio_of_nonneg (h : 0 ≤ num) :
    roundRatio num den = roundQuotient (num.natAbs * unit) den := by
  rcases h.eq_or_lt with rfl | hpos
  · simp [roundRatio, roundQuotient_zero]
  · rw [roundRatio, Int.sign_eq_one_of_pos hpos, Int.one_mul]

theorem roundRatio_nonneg (den : Nat) (h : 0 ≤ num) : 0 ≤ roundRatio num den := by
  rw [roundRatio_of_nonneg h]
  exact Int.natCast_nonneg _

/-- **A ratio of at most 2⁵³ is a finite double.** -/
theorem ofRatio_eq_finite (hden : 0 < den) (hunit : den ≤ unit)
    (hsize : num.natAbs ≤ 2 ^ 53 * den) : ofRatio num den = .finite (roundRatio num den) := by
  have hmagnitude : (num * unit).natAbs = num.natAbs * unit := by
    rw [Int.natAbs_mul, Int.natAbs_natCast]
  have hbound : roundQuotient (num.natAbs * unit) den < bound :=
    (roundQuotient_le_mul_unit hden le_rfl hsize).trans_lt (mul_unit_lt_bound le_rfl)
  rw [ofRatio, ofQuanta, hmagnitude]
  by_cases hsign : num < 0
  · have hlarge : den ≤ num.natAbs * unit :=
      hunit.trans (Nat.le_mul_of_pos_left _ (Int.natAbs_pos.mpr hsign.ne))
    rw [decide_eq_true (mul_unit_neg_iff.mpr hsign),
      ofMagnitude_true hbound (roundQuotient_pos hden hlarge), roundRatio,
      Int.sign_eq_neg_one_of_neg hsign, Int.neg_one_mul]
  · rw [decide_eq_false (mt mul_unit_neg_iff.mp hsign), ofMagnitude_false hbound,
      roundRatio_of_nonneg (Int.not_lt.mp hsign)]

/-- **Ratios keep their order.** -/
theorem roundRatio_mono (hden : 0 < den) (h : a ≤ b) : roundRatio a den ≤ roundRatio b den := by
  have hnonneg : ∀ {a b : Int}, 0 ≤ a → a ≤ b → roundRatio a den ≤ roundRatio b den := by
    intro a b ha hab
    rw [roundRatio_of_nonneg ha, roundRatio_of_nonneg (ha.trans hab), Int.ofNat_le]
    exact roundQuotient_mono hden (Nat.mul_le_mul_right _ (by omega))
  rcases Int.le_total 0 a with ha | ha
  · exact hnonneg ha h
  · rcases Int.le_total 0 b with hb | hb
    · have hleft := roundRatio_nonneg den (Int.neg_nonneg_of_nonpos ha)
      have hright := roundRatio_nonneg den hb
      rw [roundRatio_neg] at hleft
      omega
    · have hflip := hnonneg (Int.neg_nonneg_of_nonpos hb) (Int.neg_le_neg h)
      rw [roundRatio_neg, roundRatio_neg] at hflip
      omega

/-- How far a ratio is moved does not depend on its sign. -/
theorem dist_roundRatio (num : Int) (den : Nat) :
    (roundRatio num den * den - num * unit).natAbs =
      ((roundQuotient (num.natAbs * unit) den * den : Nat) - (num.natAbs * unit : Nat) : Int).natAbs
    := by
  generalize hu : unit = u
  rcases Int.le_total 0 num with hnum | hnum
  · have habs : (num.natAbs : Int) = num := Int.natAbs_of_nonneg hnum
    rw [roundRatio_of_nonneg hnum, hu, Int.natCast_mul, Int.natCast_mul, habs]
  · have habs : (num.natAbs : Int) = -num := Int.ofNat_natAbs_of_nonpos hnum
    have hround := roundRatio_neg (-num) den
    rw [roundRatio_of_nonneg (Int.neg_nonneg_of_nonpos hnum), Int.neg_neg, Int.natAbs_neg, hu]
      at hround
    rw [hround, Int.natCast_mul, Int.natCast_mul, habs, Int.neg_mul, Int.neg_mul]
    omega

/-- What a ratio is rounded to is a double. -/
theorem isDouble_roundRatio (num : Int) (hden : 0 < den) :
    IsDouble (roundRatio num den).natAbs := by
  rcases eq_or_ne num 0 with rfl | hne
  · exact ⟨0, 0, by decide, by simp [roundRatio]⟩
  · have hmagnitude := isDouble_roundQuotient (num.natAbs * unit) hden
    rwa [roundRatio, Int.natAbs_mul, Int.natAbs_sign_of_ne_zero hne, Nat.one_mul,
      Int.natAbs_natCast]

/-- **A ratio is rounded to nearest.**  No double of either sign is nearer. -/
theorem roundRatio_nearest (num : Int) (hden : 0 < den) {x : Int} (hx : IsDouble x.natAbs) :
    (roundRatio num den * den - num * unit).natAbs ≤ (x * den - num * unit).natAbs := by
  rw [dist_roundRatio]
  refine (roundQuotient_nearest (num.natAbs * unit) hden hx).trans ?_
  have habs : ∀ a b : Int, ((a.natAbs : Int) - b.natAbs).natAbs ≤ (a - b).natAbs := by omega
  have hexact := habs (x * den) (num * unit)
  rwa [Int.natAbs_mul, Int.natAbs_mul, Int.natAbs_natCast, Int.natAbs_natCast] at hexact

/-- Up to a power of two that the divisor allows, a quotient is moved by less than half of a unit of
the dividend. -/
theorem dist_roundQuotient_lt {n : Nat} (hden : 0 < den) (hsmall : den * 2 ^ e < 2 ^ 53)
    (h : n ≤ 2 ^ e * den) :
    2 * ((roundQuotient (n * unit) den * den : Nat) - (n * unit : Nat) : Int).natAbs < unit := by
  rcases h.eq_or_lt with rfl | hlt
  · -- The power of two itself is a double.
    have hdouble : roundQuotient (2 ^ e * unit * den) den = 2 ^ e * unit := by
      refine IsDouble.roundQuotient_mul ?_ hden
      rw [unit_eq, ← Nat.pow_add]
      exact isDouble_two_pow _
    have hpos := unit_pos
    rw [Nat.mul_right_comm, hdouble, Int.sub_self]
    simpa using hpos
  · have hlog : (n * unit / den).log2 ≤ e + 1021 + 52 := by
      refine log2_le_of_lt ((Nat.div_lt_iff_lt_mul hden).mpr ?_)
      calc n * unit < 2 ^ e * den * unit := Nat.mul_lt_mul_of_pos_right hlt unit_pos
        _ = 2 ^ (e + 1021 + 52 + 1) * den := by
          rw [unit_eq, Nat.add_assoc, Nat.add_assoc, Nat.pow_add, Nat.mul_right_comm]
    have hspacing : spacing (n * unit / den) ≤ 2 ^ (e + 1021) :=
      Nat.pow_le_pow_right (by decide) (Nat.sub_le_of_le_add hlog)
    have hwide : den * spacing (n * unit / den) < unit := by
      calc den * spacing (n * unit / den) ≤ den * 2 ^ (e + 1021) := Nat.mul_le_mul_left den hspacing
        _ = den * 2 ^ e * 2 ^ 1021 := by rw [Nat.pow_add, Nat.mul_assoc]
        _ < 2 ^ 53 * 2 ^ 1021 := Nat.mul_lt_mul_of_pos_right hsmall (Nat.two_pow_pos _)
        _ = unit := by rw [unit_eq, ← Nat.pow_add]
    have hle := le_roundQuotient (n * unit) hden
    have hge := roundQuotient_mul_le (n * unit) hden
    generalize n * unit = exact at *
    generalize unit = u at *
    omega

/-- Up to a power of two that the divisor allows, a ratio is moved by less than half of a unit of
its dividend. -/
theorem dist_roundRatio_lt (hden : 0 < den) (hsmall : den * 2 ^ e < 2 ^ 53)
    (h : num.natAbs ≤ 2 ^ e * den) : 2 * (roundRatio num den * den - num * unit).natAbs < unit := by
  rw [dist_roundRatio]
  exact dist_roundQuotient_lt hden hsmall h

/-- **Different ratios are different doubles** up to a power of two that the divisor allows. -/
theorem roundRatio_lt (hden : 0 < den) (hsmall : den * 2 ^ e < 2 ^ 53)
    (ha : a.natAbs ≤ 2 ^ e * den) (hb : b.natAbs ≤ 2 ^ e * den) (h : a < b) :
    roundRatio a den < roundRatio b den := by
  have hdista := dist_roundRatio_lt hden hsmall ha
  have hdistb := dist_roundRatio_lt hden hsmall hb
  have hapart : a * unit + unit ≤ b * unit := by
    have := Int.mul_le_mul_of_nonneg_right (Int.add_one_le_of_lt h) (Int.natCast_nonneg unit)
    rwa [Int.add_mul, Int.one_mul] at this
  refine lt_of_mul_lt_mul_right (a := (den : Int)) ?_ (Int.natCast_nonneg den)
  generalize a * unit = exact, b * unit = exact' at *
  generalize unit = u at *
  omega

end Catalogue.Binary64
