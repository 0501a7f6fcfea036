import Mathlib
import Catalogue.Number.Binary64

/-!
# The order of doubles

Doubles are ordered by their places on the number line (`le_iff`).  What is no number has no place,
and the two zeros share one; a key that is neither is told apart by its place (`eq_of_value_eq`).
A quotient whose dividend is written in units becomes neither: it is a number, and only zero itself
is so small that it is rounded to zero (`ofQuanta_mul_ne_negZero`).
-/

namespace Catalogue.Binary64

/-- Whatever has a sign and a magnitude is a number. -/
theorem ofMagnitude_ne_notNumber (negative : Bool) (n : Nat) :
    ofMagnitude negative n ≠ .notNumber := by
  unfold ofMagnitude
  split_ifs <;> simp

/-- Only a magnitude of zero gives a negative zero. -/
theorem eq_zero_of_ofMagnitude_eq_negZero {negative : Bool} {n : Nat}
    (h : ofMagnitude negative n = .negZero) : negative = true ∧ n = 0 := by
  unfold ofMagnitude at h
  split_ifs at h
  exact ⟨by assumption, by assumption⟩

/-- The spacing at a number of quanta is no larger than the number. -/
theorem spacing_le {n : Nat} (h : 0 < n) : spacing n ≤ n := by
  calc spacing n ≤ 2 ^ n.log2 := Nat.pow_le_pow_right (by decide) (Nat.sub_le _ _)
    _ ≤ n := Nat.log2_self_le (Nat.ne_of_gt h)

/-- A quotient of at least one quantum is not rounded to zero. -/
theorem roundQuotient_pos {num den : Nat} (hden : 0 < den) (h : den ≤ num) :
    0 < roundQuotient num den := by
  have hspacing : 0 < spacing (num / den) := Nat.pow_pos (by decide)
  have hone : 0 < num / den := Nat.div_pos h hden
  have hquotient : 0 < num / (den * spacing (num / den)) := by
    rw [← Nat.div_div_eq_div_mul]
    exact Nat.div_pos (spacing_le hone) hspacing
  have hround : 0 < roundDiv num (den * spacing (num / den)) := by
    unfold roundDiv
    dsimp only
    split_ifs <;> omega
  exact Nat.mul_pos hround hspacing

/-- A quotient of integers in larger units than the divisor is no negative zero. -/
theorem ofQuanta_mul_ne_negZero (num : Int) {units den : Nat} (hden : 0 < den)
    (hunits : den ≤ units) : ofQuanta (num * units) den ≠ .negZero := by
  intro hzero
  obtain ⟨hnegative, hmagnitude⟩ := eq_zero_of_ofMagnitude_eq_negZero hzero
  have hne : num ≠ 0 := by
    rintro rfl
    simp at hnegative
  have hlarge : den ≤ (num * units).natAbs := by
    rw [Int.natAbs_mul, Int.natAbs_natCast]
    exact hunits.trans (Nat.le_mul_of_pos_left _ (Int.natAbs_pos.mpr hne))
  exact absurd hmagnitude (Nat.ne_of_gt (roundQuotient_pos hden hlarge))

/-- The place of a double on the number line with both infinities.  What is no number has none, and
`value` puts it anywhere. -/
def value : Binary64 → WithBot (WithTop Int)
  | .negInfinite => ⊥
  | .negZero => ((0 : Int) : WithTop Int)
  | .finite quanta => (quanta : WithTop Int)
  | .posInfinite => (⊤ : WithTop Int)
  | .notNumber => ⊥

/-- Doubles are ordered by value. -/
theorem le_iff {x y : Binary64} :
    x.le y = true ↔ x ≠ .notNumber ∧ y ≠ .notNumber ∧ x.value ≤ y.value := by
  cases x <;> cases y <;> simp [le, quanta?, value]
  case posInfinite.negZero => exact WithBot.coe_injective.ne WithTop.zero_ne_top
  -- Two numbers of quanta are compared as integers.
  all_goals exact @decide_eq_true_iff _ _

/-- Only the two zeros are different and equal in value. -/
theorem eq_of_value_eq {x y : Binary64} (hx : x ≠ .notNumber ∧ x ≠ .negZero)
    (hy : y ≠ .notNumber ∧ y ≠ .negZero) (h : x.value = y.value) : x = y := by
  cases x <;> cases y <;> simp_all [value]

end Catalogue.Binary64
