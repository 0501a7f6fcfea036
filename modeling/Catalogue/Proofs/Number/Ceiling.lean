import Mathlib
import Catalogue.Proofs.Number.Nearest
import Catalogue.Proofs.Number.Order

/-!
# Rounding up a rounded quotient

A quotient of integers that is rounded to a double and then up to an integer need not give the
quotient rounded up.  Where the doubles are close together, it is lost how far the quotient exceeds
an integer if that is at most half of their spacing (`roundQuotient_le_mul_iff`); below one this
means that the double is zero (`roundQuotient_eq_zero_iff`).  Where they are integers further apart,
the integer has to be one of them (`ceilQuanta_wide_iff`).  Together these decide which quotients
are rounded up exactly (`ceilQuanta_roundQuotient_iff`).
-/

namespace Catalogue.Binary64

variable {num den m : Nat}

/-- A quotient is rounded down to an integer or below it when it exceeds the integer by less than
one half, or by one half and the integer is even. -/
theorem roundDiv_le_iff (hden : 0 < den) :
    roundDiv num den ≤ m ↔
      2 * num < 2 * (m * den) + den ∨ (2 * num = 2 * (m * den) + den ∧ m % 2 = 0) := by
  have hsplit : num / den * den + num % den = num := Nat.div_add_mod' num den
  have hrest := Nat.mod_lt num hden
  unfold roundDiv
  dsimp only
  generalize num / den = q, num % den = r at *
  rcases Nat.lt_trichotomy q m with hlt | rfl | hgt
  · have hstep : (q + 1) * den ≤ m * den := Nat.mul_le_mul_right den hlt
    rw [Nat.succ_mul] at hstep
    split_ifs <;> omega
  · split_ifs <;> omega
  · have hstep : (m + 1) * den ≤ q * den := Nat.mul_le_mul_right den hgt
    rw [Nat.succ_mul] at hstep
    split_ifs <;> omega

/-- A quotient is rounded to zero when it is at most half of a quantum. -/
theorem roundQuotient_eq_zero_iff (hden : 0 < den) :
    roundQuotient num den = 0 ↔ 2 * num ≤ den := by
  rcases Nat.lt_or_ge num den with hless | hmore
  · have hspacing : spacing (num / den) = 1 := by
      rw [Nat.div_eq_of_lt hless]
      decide
    rw [roundQuotient, hspacing, Nat.mul_one, Nat.mul_one, ← Nat.le_zero, roundDiv_le_iff hden]
    omega
  · have := roundQuotient_pos hden hmore
    omega

/-- Half of a quantum is this part of the number one. -/
theorem two_mul_mul_unit (n : Nat) : 2 * (n * unit) = n * 2 ^ 1075 := by
  rw [unit_eq, Nat.mul_left_comm, ← Nat.pow_succ']

/-- The spacing where a quotient of integers is at least one. -/
theorem spacing_mul_unit_div (hden : 0 < den) (h : den ≤ num) :
    spacing (num * unit / den) = 2 ^ ((num / den).log2 + 1022) := by
  have hlow : 2 ^ ((num / den).log2 + 1074) ≤ num * unit / den := by
    rw [Nat.le_div_iff_mul_le hden]
    calc 2 ^ ((num / den).log2 + 1074) * den = 2 ^ (num / den).log2 * den * unit := by
          rw [unit_eq, Nat.pow_add, Nat.mul_right_comm]
      _ ≤ num / den * den * unit := Nat.mul_le_mul_right _
          (Nat.mul_le_mul_right _ (Nat.log2_self_le (Nat.div_pos h hden).ne'))
      _ ≤ num * unit := Nat.mul_le_mul_right _ (Nat.div_mul_le_self num den)
  have hhigh : num * unit / den < 2 ^ ((num / den).log2 + 1074 + 1) := by
    rw [Nat.div_lt_iff_lt_mul hden]
    calc num * unit < 2 ^ ((num / den).log2 + 1) * den * unit :=
          Nat.mul_lt_mul_of_pos_right ((Nat.div_lt_iff_lt_mul hden).mp Nat.lt_log2_self) unit_pos
      _ = 2 ^ ((num / den).log2 + 1074 + 1) * den := by
          rw [unit_eq, Nat.mul_right_comm, ← Nat.pow_add, Nat.add_right_comm]
  have hpos : num * unit / den ≠ 0 := ((Nat.two_pow_pos _).trans_le hlow).ne'
  have hexponent : (num * unit / den).log2 - 52 = (num / den).log2 + 1022 := by
    rw [(Nat.log2_eq_iff hpos).mpr ⟨hlow, hhigh⟩]
    omega
  rw [spacing, hexponent, Nat.pow_eq]

/-- In units of `w` spacings, what a quotient exceeds an integer by is lost if it is less than half
of a spacing, or half of it behind an even number of spacings. -/
theorem roundDiv_mul_le_iff (hden : 0 < den) {s : Nat} (hs : 0 < s) (w : Nat) :
    roundDiv (num * (w * s)) (den * s) ≤ num / den * w ↔
      num % den * (2 * w) < den ∨ (num % den * (2 * w) = den ∧ num / den * w % 2 = 0) := by
  have hsplit : num / den * den + num % den = num := Nat.div_add_mod' num den
  rw [roundDiv_le_iff (Nat.mul_pos hden hs)]
  generalize num / den = q, num % den = r at *
  have hexact : num * (w * s) = q * w * (den * s) + r * w * s := by
    rw [← hsplit]
    ring
  have hless : r * (2 * w) < den ↔ 2 * (r * w * s) < den * s := by
    rw [← Nat.mul_lt_mul_right hs]
    ring_nf
  have hsame : r * (2 * w) = den ↔ 2 * (r * w * s) = den * s := by
    rw [← Nat.mul_left_inj hs.ne']
    ring_nf
  rw [hexact, hless, hsame]
  omega

/-- An integer of less than 54 bits is an odd number of spacings only if it has 53 bits. -/
theorem mul_two_pow_mod_two_iff {q : Nat} (hone : q ≠ 0) :
    q * 2 ^ (52 - q.log2) % 2 = 0 ↔ q < 2 ^ 52 ∨ q % 2 = 0 := by
  rcases Nat.lt_or_ge q (2 ^ 52) with hless | hmore
  · have hexponent : 52 - q.log2 = 51 - q.log2 + 1 := by
      have := log2_le_of_lt hless
      omega
    have htwice : q * 2 ^ (52 - q.log2) = q * 2 ^ (51 - q.log2) * 2 := by
      rw [hexponent, Nat.pow_succ, Nat.mul_assoc]
    exact iff_of_true (by rw [htwice, Nat.mul_mod_left]) (Or.inl hless)
  · have hfull : 52 ≤ q.log2 := (Nat.le_log2 hone).mpr hmore
    rw [Nat.sub_eq_zero_of_le hfull, Nat.pow_zero, Nat.mul_one]
    omega

/-- Between two integers of less than 54 bits a quotient is rounded down to the lower one when it
exceeds it by less than half of the spacing, or by half of it and the double is even. -/
theorem roundQuotient_le_mul_iff (hden : 0 < den) (h : den ≤ num) (hbits : num / den < 2 ^ 53) :
    roundQuotient (num * unit) den ≤ num / den * unit ↔
      num % den * 2 ^ (53 - (num / den).log2) < den ∨
        (num % den * 2 ^ (53 - (num / den).log2) = den ∧
          (num / den < 2 ^ 52 ∨ num / den % 2 = 0)) := by
  have hlog : (num / den).log2 ≤ 52 := log2_le_of_lt hbits
  have hspacing := spacing_mul_unit_div hden h
  have hpos : 0 < spacing (num * unit / den) := spacing_pos _
  rw [roundQuotient]
  generalize spacing (num * unit / den) = s at *
  -- The number one is this many spacings.
  have hunit : unit = 2 ^ (52 - (num / den).log2) * s := by
    have hexponent : 52 - (num / den).log2 + ((num / den).log2 + 1022) = 1074 := by omega
    rw [hspacing, ← Nat.pow_add, hexponent, unit_eq]
  have hdouble : 2 ^ (53 - (num / den).log2) = 2 * 2 ^ (52 - (num / den).log2) := by
    have hexponent : 53 - (num / den).log2 = 52 - (num / den).log2 + 1 := by omega
    rw [hexponent, Nat.pow_succ']
  rw [hunit, ← Nat.mul_assoc (num / den), Nat.mul_le_mul_right_iff hpos,
    roundDiv_mul_le_iff hden hpos, mul_two_pow_mod_two_iff (Nat.div_pos h hden).ne', hdouble]

theorem ceilQuanta_mul_unit (m : Nat) : ceilQuanta (m * unit) = m := by
  refine Nat.le_antisymm (ceilQuanta_le_iff.mpr le_rfl) ?_
  exact Nat.le_of_mul_le_mul_right (ceilQuanta_le_iff.mp le_rfl) unit_pos

/-- The quotient of two integers rounded up. -/
theorem ceilDiv_le_iff (hden : 0 < den) : num ⌈/⌉ den ≤ m ↔ num ≤ m * den := by
  rw [ceilDiv_le_iff_le_mul hden, Nat.mul_comm]

/-- A quotient that is no integer is rounded up to the next one. -/
theorem ceilDiv_eq_succ (hden : 0 < den) (h : ¬ den ∣ num) : num ⌈/⌉ den = num / den + 1 := by
  refine Nat.le_antisymm ((ceilDiv_le_iff hden).mpr ?_) (Nat.lt_of_not_le fun hle => h ?_)
  · exact ((Nat.div_lt_iff_lt_mul hden).mp (Nat.lt_succ_self _)).le
  · have hsame := Nat.le_antisymm ((ceilDiv_le_iff hden).mp hle) (Nat.div_mul_le_self num den)
    exact ⟨num / den, by rw [Nat.mul_comm]; exact hsame⟩

/-- An integer quotient is rounded up to itself. -/
theorem ceilDiv_eq_div (hden : 0 < den) (h : den ∣ num) : num ⌈/⌉ den = num / den := by
  have hexact := Nat.div_mul_cancel h
  refine Nat.le_antisymm ((ceilDiv_le_iff hden).mpr hexact.ge) ?_
  exact Nat.le_of_mul_le_mul_right (hexact.trans_le ((ceilDiv_le_iff hden).mp le_rfl)) hden

/-- Up to 53 bits of the quotient, it is rounded up exactly unless it is rounded down to an
integer below it. -/
theorem ceilQuanta_narrow_iff (hden : 0 < den) (hbits : num / den < 2 ^ 53) (h : ¬ den ∣ num) :
    ceilQuanta (roundQuotient (num * unit) den) = num ⌈/⌉ den ↔
      ¬ roundQuotient (num * unit) den ≤ num / den * unit := by
  have hnext : num ≤ (num / den + 1) * den :=
    ((Nat.div_lt_iff_lt_mul hden).mp (Nat.lt_succ_self _)).le
  have hle := ceilQuanta_le_iff.mpr (roundQuotient_le_mul_unit hden hbits hnext)
  rw [ceilDiv_eq_succ hden h, ← ceilQuanta_le_iff]
  omega

/-- An integer quotient of up to 53 bits is a double. -/
theorem ceilQuanta_of_dvd (hden : 0 < den) (hbits : num / den ≤ 2 ^ 53) (h : den ∣ num) :
    ceilQuanta (roundQuotient (num * unit) den) = num ⌈/⌉ den := by
  have hdouble : IsDouble (num / den * unit) := ⟨num / den, 1074, hbits, by rw [unit_eq]⟩
  have hexact : num * unit = num / den * unit * den := by
    rw [Nat.mul_right_comm, Nat.div_mul_cancel h]
  rw [ceilDiv_eq_div hden h, hexact, hdouble.roundQuotient_mul hden, ceilQuanta_mul_unit]

theorem ceilDiv_mul_lt (hden : 0 < den) : num ⌈/⌉ den * den < num + den := by
  by_contra hlarge
  have hpred : num ≤ (num ⌈/⌉ den - 1) * den := by
    rw [Nat.sub_mul, Nat.one_mul]
    omega
  have hzero : num ⌈/⌉ den = 0 := by
    have := (ceilDiv_le_iff hden).mpr hpred
    omega
  rw [hzero] at hlarge
  omega

/-- A multiple of an integer greater than one is the multiple nearest to every quotient that is
rounded up to it. -/
theorem roundDiv_ceilDiv (hden : 0 < den) {g c u : Nat} (hg : 2 ≤ g) (hu : 0 < u)
    (h : num ⌈/⌉ den = c * g) : roundDiv (num * u) (den * (g * u)) = c := by
  have hsame : c * (den * (g * u)) = num ⌈/⌉ den * den * u := by
    rw [h]
    ring
  have hle : num * u ≤ num ⌈/⌉ den * den * u :=
    Nat.mul_le_mul_right u ((ceilDiv_le_iff hden).mp le_rfl)
  have hlt : num ⌈/⌉ den * den * u < num * u + den * u := by
    rw [← Nat.add_mul]
    exact Nat.mul_lt_mul_of_pos_right (ceilDiv_mul_lt hden) hu
  have hwide : 2 * (den * u) ≤ den * (g * u) := by
    calc 2 * (den * u) ≤ g * (den * u) := Nat.mul_le_mul_right _ hg
      _ = den * (g * u) := Nat.mul_left_comm g den u
  have hpos := Nat.mul_pos hden hu
  exact roundDiv_eq (by omega) (by omega) (by omega)

/-- From 54 bits of the quotient on, it is rounded up exactly if the exact result is a double. -/
theorem ceilQuanta_wide_iff (hden : 0 < den) (hbits : 2 ^ 53 ≤ num / den) :
    ceilQuanta (roundQuotient (num * unit) den) = num ⌈/⌉ den ↔
      2 ^ ((num / den).log2 - 52) ∣ num ⌈/⌉ den := by
  have hone : num / den ≠ 0 := ((Nat.two_pow_pos 53).trans_le hbits).ne'
  have hlog : 53 ≤ (num / den).log2 := (Nat.le_log2 hone).mpr hbits
  have hspacing : spacing (num * unit / den) = 2 ^ ((num / den).log2 - 52) * unit := by
    have hexponent : (num / den).log2 - 52 + 1074 = (num / den).log2 + 1022 := by omega
    rw [spacing_mul_unit_div hden (Nat.div_ne_zero_iff.mp hone).2, unit_eq, ← Nat.pow_add,
      hexponent]
  have hgap : 2 ≤ 2 ^ ((num / den).log2 - 52) := Nat.le_self_pow (by omega) 2
  rw [roundQuotient, hspacing, ← Nat.mul_assoc (roundDiv _ _), ceilQuanta_mul_unit]
  constructor
  · intro hsame
    exact ⟨_, hsame.symm.trans (Nat.mul_comm _ _)⟩
  · rintro ⟨c, hc⟩
    rw [Nat.mul_comm] at hc
    rw [roundDiv_ceilDiv hden hgap unit_pos hc, hc]

/-- The quotient of two integers, rounded to a double, is rounded up to what the exact quotient is
rounded up to.  Below one, the double must not be zero.  Up to 53 bits, it must not be an integer
below the exact quotient.  From there on, where not all integers are doubles, the exact result has
to be one. -/
def KeepsCeil (num den : Nat) : Prop :=
  if num < den then
    num = 0 ∨ den < num * 2 ^ 1075
  else if num / den < 2 ^ 53 then
    den ∣ num ∨ den < num % den * 2 ^ (53 - (num / den).log2) ∨
      (den = num % den * 2 ^ (53 - (num / den).log2) ∧ 2 ^ 52 ≤ num / den ∧ num / den % 2 = 1)
  else
    2 ^ ((num / den).log2 - 52) ∣ num ⌈/⌉ den

/-- **Which quotients are rounded up exactly** after they were rounded to a double. -/
theorem ceilQuanta_roundQuotient_iff (hden : 0 < den) :
    ceilQuanta (roundQuotient (num * unit) den) = num ⌈/⌉ den ↔ KeepsCeil num den := by
  unfold KeepsCeil
  split_ifs with hless hbits
  · have hquotient : num / den = 0 := Nat.div_eq_of_lt hless
    rcases Nat.eq_zero_or_pos num with rfl | hpos
    · exact iff_of_true (ceilQuanta_of_dvd hden (by omega) (dvd_zero den)) (Or.inl rfl)
    · rw [ceilQuanta_narrow_iff hden (by omega) (Nat.not_dvd_of_pos_of_lt hpos hless), hquotient,
        Nat.zero_mul, Nat.le_zero, roundQuotient_eq_zero_iff hden, two_mul_mul_unit, Nat.not_le,
        or_iff_right hpos.ne']
  · by_cases hdvd : den ∣ num
    · exact iff_of_true (ceilQuanta_of_dvd hden hbits.le hdvd) (Or.inl hdvd)
    · rw [ceilQuanta_narrow_iff hden hbits hdvd,
        roundQuotient_le_mul_iff hden (Nat.not_lt.mp hless) hbits, or_iff_right hdvd]
      omega
  · exact ceilQuanta_wide_iff hden (Nat.not_lt.mp hbits)

end Catalogue.Binary64
