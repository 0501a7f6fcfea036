import Mathlib
import Catalogue.Display.Report
import Catalogue.Proofs.Number.Ratio
import Catalogue.Proofs.Statistics.Summary

/-!
# Weights and the bold ones among them

A weight is computed in three steps, a quotient, a product and a sum, and each of them is rounded.
Rounding keeps the order, so a weight grows with the quotient (`Weight.quanta_mono`).  One half is a
double, and the sum that belongs to it lies midway between two doubles; the tie goes to the greater
one, which is the least bold weight (`Weight.quanta_half`).  A smaller quotient of counts up to 2⁵⁰
is at least 2⁻⁵¹ below one half, far enough for its weight to fall below that
(`Weight.quanta_belowHalf_lt`).  So exactly the counts from half of the greatest one on are bold
(`Weight.boldWeight_le_iff`).
-/

namespace Catalogue

namespace Weight

open Binary64 (unit bound roundQuotient IsDouble)

/-- The quanta of the least weight. -/
def leastQuanta : Nat := roundQuotient (85 * unit) 100

/-- The quanta of the difference between the greatest and the least weight. -/
def rangeQuanta : Nat := roundQuotient (3 * unit) 2

/-- The quanta of the least bold weight. -/
def boldQuanta : Nat := roundQuotient (16 * unit) 10

/-- The quanta of the weight of a quotient. -/
def quanta (q : Nat) : Nat :=
  roundQuotient (leastQuanta + roundQuotient (q * rangeQuanta) unit) 1

/-- The least weight is a finite double. -/
theorem least_eq : least = .finite leastQuanta := by
  decide +kernel

theorem range_eq : range = .finite rangeQuanta := by
  decide +kernel

/-- The least bold weight is a finite double. -/
theorem boldWeight_eq : Report.boldWeight = .finite boldQuanta := by
  decide +kernel

/-- **Weights grow** with the quotient. -/
theorem quanta_mono {q q' : Nat} (h : q ≤ q') : quanta q ≤ quanta q' := by
  have hproduct : roundQuotient (q * rangeQuanta) unit ≤ roundQuotient (q' * rangeQuanta) unit :=
    Binary64.roundQuotient_mono Binary64.unit_pos (Nat.mul_le_mul_right rangeQuanta h)
  exact Binary64.roundQuotient_mono Nat.one_pos (Nat.add_le_add_left hproduct leastQuanta)

/-- The weight of the most frequent tag is a finite double. -/
theorem quanta_unit_lt_bound : quanta unit < bound := by
  decide +kernel

/-- **The weight of a quotient** up to one. -/
theorem add_mul_eq_finite {q : Nat} (h : q ≤ unit) :
    least.add ((Binary64.finite q).mul range) = .finite (quanta q) := by
  have hgreatest : roundQuotient (unit * rangeQuanta) unit < bound := by decide +kernel
  have hproduct : roundQuotient (q * rangeQuanta) unit < bound :=
    (Binary64.roundQuotient_mono Binary64.unit_pos
      (Nat.mul_le_mul_right rangeQuanta h)).trans_lt hgreatest
  rw [least_eq, range_eq, Binary64.mul_finite hproduct]
  exact Binary64.add_finite ((quanta_mono h).trans_lt quanta_unit_lt_bound)

/-- The weight of a count is the weight of its rounded quotient. -/
theorem ofCount_eq_finite {count first : Nat} (h : count ≤ first) (hfirst : 0 < first) :
    ofCount count first = .ok (.finite (quanta (roundQuotient (count * unit) first))) := by
  rw [ofCount_eq_ok h hfirst, quotient_eq_finite h hfirst,
    add_mul_eq_finite (roundQuotient_le_unit h hfirst)]

/-- The quanta of one half. -/
def half : Nat := Nat.pow 2 1073

/-- The quanta of the double that is 2⁻⁵¹ below one half. -/
def belowHalf : Nat := (2 ^ 50 - 1) * Nat.pow 2 1023

/-- **The tie.**  The weight of one half is rounded up to the least bold weight. -/
theorem quanta_half : quanta half = boldQuanta := by
  -- The sum is half of a spacing below the least bold weight, which is the even neighbour.
  decide +kernel

/-- **Below the tie.**  The weight of the double 2⁻⁵¹ below one half is not bold. -/
theorem quanta_belowHalf_lt : quanta belowHalf < boldQuanta := by
  -- The product is exact, and the sum is seven halves of a spacing below the least bold weight.
  decide +kernel

theorem isDouble_half : IsDouble half := by
  rw [half, Nat.pow_eq]
  exact Binary64.isDouble_two_pow 1073

/-- Fifty significant bits write the double below one half. -/
theorem isDouble_belowHalf : IsDouble belowHalf :=
  ⟨2 ^ 50 - 1, 1023, by decide, by rw [belowHalf, Nat.pow_eq]⟩

/-- Counts from half of the first one on have quotients of one half at least. -/
theorem half_le_roundQuotient {count first : Nat} (hfirst : 0 < first) (h : first ≤ 2 * count) :
    half ≤ roundQuotient (count * unit) first := by
  have hunit : unit = 2 * half := by decide +kernel
  have hle : half * first ≤ count * unit := by
    calc half * first ≤ half * (2 * count) := Nat.mul_le_mul_left half h
      _ = count * unit := by rw [hunit, Nat.mul_left_comm, ← Nat.mul_assoc, Nat.mul_comm]
  rw [← isDouble_half.roundQuotient_mul hfirst]
  exact Binary64.roundQuotient_mono hfirst hle

/-- Up to 2⁵⁰, smaller counts have quotients that are 2⁻⁵¹ below one half at least. -/
theorem roundQuotient_le_belowHalf {count first : Nat} (hfirst : first ≤ 2 ^ 50)
    (h : 2 * count < first) : roundQuotient (count * unit) first ≤ belowHalf := by
  have hpos : 0 < first := Nat.zero_lt_of_lt h
  have hunit : unit = 2 ^ 51 * Nat.pow 2 1023 := by decide +kernel
  have hcounts : count * 2 ^ 51 ≤ (2 ^ 50 - 1) * first := by omega
  have hle : count * unit ≤ belowHalf * first := by
    calc count * unit = count * 2 ^ 51 * Nat.pow 2 1023 := by rw [hunit, Nat.mul_assoc]
      _ ≤ (2 ^ 50 - 1) * first * Nat.pow 2 1023 := Nat.mul_le_mul_right _ hcounts
      _ = belowHalf * first := by rw [belowHalf, Nat.mul_right_comm]
  rw [← isDouble_belowHalf.roundQuotient_mul hpos]
  exact Binary64.roundQuotient_mono hpos hle

/-- **Bold weights.**  Up to 2⁵⁰, the weight of a count is bold exactly when twice the count is at
least the first one. -/
theorem boldWeight_le_iff {count first : Nat} (hle : count ≤ first) (hpos : 0 < first)
    (hfirst : first ≤ 2 ^ 50) {weight : Binary64} (h : ofCount count first = .ok weight) :
    Report.boldWeight.le weight = true ↔ first ≤ 2 * count := by
  rw [ofCount_eq_finite hle hpos] at h
  obtain rfl := Except.ok.inj h
  rw [boldWeight_eq, Binary64.finite_le_finite]
  constructor
  · intro hweight
    by_contra hsmall
    have hbelow := quanta_mono (roundQuotient_le_belowHalf hfirst (Nat.lt_of_not_le hsmall))
    exact absurd hweight (Nat.not_le.mpr (hbelow.trans_lt quanta_belowHalf_lt))
  · intro hlarge
    rw [← quanta_half]
    exact quanta_mono (half_le_roundQuotient hpos hlarge)

end Weight

end Catalogue
