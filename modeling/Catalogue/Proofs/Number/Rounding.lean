import Mathlib
import Catalogue.Number.Binary64

/-!
# How far a quotient is rounded

A quotient of integers becomes a double by moving to the nearest multiple of the spacing that
doubles have there.  It moves by half of that spacing at most (`le_roundQuotient`), and it does not
pass a double on its way (`roundQuotient_le`).  These two facts make the rounding up of a rounded
quotient exact: with a dividend of at most 2⁵³ the spacing is too small for a quotient that exceeds
an integer to be rounded down to it (`ceilQuanta_roundQuotient`).
-/

namespace Catalogue.Binary64

/-- The nearest integer is below a quotient by one half at most. -/
theorem le_roundDiv (num : Nat) {den : Nat} (hden : 0 < den) :
    2 * num ≤ 2 * (roundDiv num den * den) + den := by
  have hsplit : num / den * den + num % den = num := Nat.div_add_mod' num den
  have hrest := Nat.mod_lt num hden
  have hparity := Nat.mod_two_eq_zero_or_one (num / den)
  unfold roundDiv
  dsimp only
  split_ifs
  · omega
  · rw [Nat.add_mul, Nat.one_mul]
    omega
  · rw [Nat.add_mul]
    omega

/-- Rounding does not pass an integer. -/
theorem roundDiv_le {num den m : Nat} (hden : 0 < den) (h : num ≤ m * den) :
    roundDiv num den ≤ m := by
  have hsplit : num / den * den + num % den = num := Nat.div_add_mod' num den
  have hquotient : num / den ≤ m := Nat.div_le_of_le_mul (by rwa [Nat.mul_comm])
  have hexact : num / den = m → num % den = 0 := by
    rintro rfl
    omega
  unfold roundDiv
  dsimp only
  split_ifs <;> omega

/-- An integer quotient is its own nearest integer. -/
theorem roundDiv_mul (m : Nat) {den : Nat} (hden : 0 < den) : roundDiv (m * den) den = m := by
  simp [roundDiv, hden]

theorem spacing_pos (n : Nat) : 0 < spacing n :=
  Nat.pow_pos (by decide)

/-- Where there are gaps between the doubles, they have 53 significant bits. -/
theorem spacing_mul_le {n : Nat} (h : 1 < spacing n) : spacing n * 2 ^ 52 ≤ n := by
  have hne : n ≠ 0 := by
    rintro rfl
    exact absurd h (by decide)
  have hlog : 52 ≤ n.log2 := by
    by_contra hsmall
    rw [spacing, Nat.sub_eq_zero_of_le (by omega)] at h
    exact absurd h (by decide)
  calc spacing n * 2 ^ 52 = 2 ^ (n.log2 - 52 + 52) := (Nat.pow_add 2 _ 52).symm
    _ = 2 ^ n.log2 := by rw [Nat.sub_add_cancel hlog]
    _ ≤ n := Nat.log2_self_le hne

/-- A number below a power of two has a smaller logarithm. -/
theorem log2_le_of_lt {n e : Nat} (h : n < 2 ^ (e + 1)) : n.log2 ≤ e := by
  rcases Nat.eq_zero_or_pos n with rfl | hpos
  · simp
  · exact Nat.le_of_lt_succ ((Nat.log2_lt hpos.ne').mpr h)

/-- A number with 53 significant bits is a multiple of the spacing at every smaller number. -/
theorem spacing_dvd {n k e : Nat} (hk : k ≤ 2 ^ 53) (h : n ≤ k * 2 ^ e) :
    spacing n ∣ k * 2 ^ e := by
  rcases Nat.lt_or_eq_of_le hk with hlt | rfl
  · have hlog : n.log2 ≤ 52 + e := by
      refine log2_le_of_lt ?_
      calc n ≤ k * 2 ^ e := h
        _ < 2 ^ 53 * 2 ^ e := Nat.mul_lt_mul_of_pos_right hlt (Nat.two_pow_pos e)
        _ = 2 ^ (52 + e + 1) := by ring
    exact (Nat.pow_dvd_pow 2 (by omega)).trans (Nat.dvd_mul_left (2 ^ e) k)
  · have hlog : n.log2 ≤ 53 + e := by
      refine log2_le_of_lt ?_
      calc n ≤ 2 ^ 53 * 2 ^ e := h
        _ = 2 ^ (53 + e) := (Nat.pow_add 2 53 e).symm
        _ < 2 ^ (53 + e + 1) := Nat.pow_lt_pow_succ (by decide)
    rw [← Nat.pow_add]
    exact Nat.pow_dvd_pow 2 (by omega)

/-- A rounded quotient times the divisor is the dividend, rounded to spacings of the quotient. -/
theorem roundQuotient_mul_den (num den : Nat) :
    roundQuotient num den * den =
      roundDiv num (den * spacing (num / den)) * (den * spacing (num / den)) := by
  rw [roundQuotient]
  ring

/-- The rounded quotient is below the exact one by half of the spacing at most. -/
theorem le_roundQuotient (num : Nat) {den : Nat} (hden : 0 < den) :
    2 * num ≤ 2 * (roundQuotient num den * den) + den * spacing (num / den) := by
  rw [roundQuotient_mul_den]
  exact le_roundDiv num (Nat.mul_pos hden (spacing_pos (num / den)))

/-- Rounding does not pass a double. -/
theorem roundQuotient_le {num den m : Nat} (hden : 0 < den) (hdouble : spacing (num / den) ∣ m)
    (h : num ≤ m * den) : roundQuotient num den ≤ m := by
  obtain ⟨k, rfl⟩ := hdouble
  have hspacing := spacing_pos (num / den)
  rw [roundQuotient, Nat.mul_comm (spacing _) k]
  refine Nat.mul_le_mul_right _ (roundDiv_le (Nat.mul_pos hden hspacing) ?_)
  calc num ≤ spacing (num / den) * k * den := h
    _ = k * (den * spacing (num / den)) := by ring

/-- A quotient that is a double is its own rounding. -/
theorem roundQuotient_of_eq {num den m : Nat} (hden : 0 < den)
    (h : num = m * (den * spacing (num / den))) : roundQuotient num den * den = num := by
  have hspacing := Nat.mul_pos hden (spacing_pos (num / den))
  have hnearest : roundDiv num (den * spacing (num / den)) = m :=
    (congrArg (roundDiv · _) h).trans (roundDiv_mul m hspacing)
  rw [roundQuotient_mul_den, hnearest]
  exact h.symm

/-- One is 2¹⁰⁷⁴ quanta. -/
theorem unit_eq : unit = 2 ^ 1074 := by
  rw [unit, Nat.pow_eq]

theorem unit_pos : 0 < unit := by
  rw [unit_eq]
  exact Nat.two_pow_pos 1074

theorem le_unit : 2 ^ 1000 ≤ unit := by
  rw [unit_eq]
  exact Nat.pow_le_pow_right Nat.two_pos (by norm_num)

/-- One lies in the range of finite doubles. -/
theorem unit_lt_bound : unit < bound := by
  rw [unit_eq, bound, Nat.pow_eq]
  exact Nat.pow_lt_pow_right (by decide) (by decide)

/-- The ceiling of a double is the least whole number that is not below it. -/
theorem ceilQuanta_le_iff {n m : Nat} : ceilQuanta n ≤ m ↔ n ≤ m * unit := by
  have := unit_pos
  rw [ceilQuanta, ← Nat.lt_succ_iff, Nat.div_lt_iff_lt_mul unit_pos, Nat.succ_mul]
  omega

variable {num den : Nat}

/-- Where the spacing of a quotient is more than one, the dividend has 53 bits of it at least. -/
theorem mul_spacing_mul_le (h : 1 < spacing (num / den)) :
    den * spacing (num / den) * 2 ^ 52 ≤ num := by
  calc den * spacing (num / den) * 2 ^ 52 = spacing (num / den) * 2 ^ 52 * den := by ring
    _ ≤ num / den * den := Nat.mul_le_mul_right den (spacing_mul_le h)
    _ ≤ num := Nat.div_mul_le_self _ _

/-- If a quotient is rounded down to an integer that it exceeds, half of its spacing is as large as
its least distance from the integer. -/
theorem two_mul_unit_le_mul_spacing (hden : 0 < den) {m : Nat} (h : m * den < num)
    (hdown : roundQuotient (num * unit) den ≤ m * unit) :
    2 * unit ≤ den * spacing (num * unit / den) := by
  have hnearest := le_roundQuotient (num * unit) hden
  have hrounded := Nat.mul_le_mul_right den hdown
  have hgap : (m * den).succ * unit ≤ num * unit :=
    Nat.mul_le_mul_right unit (Nat.succ_le_of_lt h)
  have hcomm : m * unit * den = m * den * unit := Nat.mul_right_comm m unit den
  rw [Nat.succ_mul] at hgap
  omega

/-- A quotient that exceeds an integer is not rounded down to it. -/
theorem lt_roundQuotient (hnum : num ≤ 2 ^ 53) (hden : 0 < den) (hsmall : den < 2 * unit) {m : Nat}
    (h : m * den < num) : m * unit < roundQuotient (num * unit) den := by
  by_contra hdown
  rw [Nat.not_lt] at hdown
  have hexact : roundQuotient (num * unit) den * den ≠ num * unit := by
    intro hsame
    have hle : num * unit ≤ m * unit * den :=
      hsame.symm.trans_le (Nat.mul_le_mul_right den hdown)
    have hlt : m * den * unit < num * unit := Nat.mul_lt_mul_of_pos_right h unit_pos
    rw [Nat.mul_right_comm] at hlt
    omega
  have hwide := two_mul_unit_le_mul_spacing hden h hdown
  have hone : 1 < spacing (num * unit / den) := by
    by_contra hnone
    have := Nat.mul_le_mul_left den (Nat.not_lt.mp hnone)
    omega
  -- Only a dividend of 2⁵³ has such a spacing, and then nothing is rounded.
  have hbits := mul_spacing_mul_le hone
  have hlarge : num * unit ≤ 2 ^ 53 * unit := Nat.mul_le_mul_right unit hnum
  refine hexact (roundQuotient_of_eq (m := 2 ^ 52) hden ?_)
  omega

/-- A quotient that does not exceed an integer is not rounded above it. -/
theorem roundQuotient_le_mul_unit (hden : 0 < den) {m : Nat} (hm : m ≤ 2 ^ 53)
    (h : num ≤ m * den) : roundQuotient (num * unit) den ≤ m * unit := by
  have hbound : num * unit ≤ m * unit * den := by
    rw [Nat.mul_right_comm]
    exact Nat.mul_le_mul_right unit h
  refine roundQuotient_le hden ?_ hbound
  have hquotient : num * unit / den ≤ m * unit :=
    Nat.div_le_of_le_mul (by rwa [Nat.mul_comm den])
  rw [unit_eq] at hquotient ⊢
  exact spacing_dvd hm hquotient

/-- **Rounding up a rounded quotient** is rounding up the quotient, as long as the dividend is at
most 2⁵³. -/
theorem ceilQuanta_roundQuotient (hnum : num ≤ 2 ^ 53) (hden : 0 < den) (hsmall : den < 2 * unit) :
    ceilQuanta (roundQuotient (num * unit) den) = num ⌈/⌉ den := by
  have hceil : ∀ {m : Nat}, num ⌈/⌉ den ≤ m ↔ num ≤ m * den := by
    intro m
    rw [ceilDiv_le_iff_le_mul hden, Nat.mul_comm]
  refine Nat.le_antisymm ?_ ?_
  · have hle : num ⌈/⌉ den ≤ num := hceil.mpr (Nat.le_mul_of_pos_right num hden)
    exact ceilQuanta_le_iff.mpr
      (roundQuotient_le_mul_unit hden (hle.trans hnum) (hceil.mp le_rfl))
  · refine hceil.mpr ?_
    by_contra hexceeds
    have hround := lt_roundQuotient hnum hden hsmall (Nat.not_le.mp hexceeds)
    exact absurd (ceilQuanta_le_iff.mp le_rfl) (Nat.not_le.mpr hround)

end Catalogue.Binary64
