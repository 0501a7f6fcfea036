import Mathlib
import Catalogue.Proofs.Number.Rounding

/-!
# Rounding to the nearest double

Rounding a quotient keeps the order of quotients (`roundQuotient_mono`): within one power of two it
moves to multiples of one spacing, and the powers of two themselves are doubles, which it does not
pass.  As it keeps every double (`IsDouble.roundQuotient_mul`), no double is nearer to a quotient
than what the quotient is rounded to (`roundQuotient_nearest`).
-/

namespace Catalogue.Binary64

/-- A number of quanta with at most 53 significant bits. -/
def IsDouble (m : Nat) : Prop :=
  ∃ k e, k ≤ 2 ^ 53 ∧ m = k * 2 ^ e

theorem isDouble_two_pow (e : Nat) : IsDouble (2 ^ e) :=
  ⟨1, e, by norm_num, by rw [Nat.one_mul]⟩

variable {num num' den m n n' : Nat}

/-- The nearest integer is above a quotient by one half at most. -/
theorem roundDiv_mul_le (num : Nat) (hden : 0 < den) :
    2 * (roundDiv num den * den) ≤ 2 * num + den := by
  have hsplit : num / den * den + num % den = num := Nat.div_add_mod' num den
  have hparity := Nat.mod_two_eq_zero_or_one (num / den)
  unfold roundDiv
  dsimp only
  split_ifs
  · omega
  · rw [Nat.add_mul, Nat.one_mul]
    omega
  · rw [Nat.add_mul]
    rcases hparity with heven | hodd
    · rw [heven]
      omega
    · rw [hodd]
      omega

/-- An integer that differs from a quotient by less than one half is the nearest one. -/
theorem roundDiv_eq (hden : 0 < den) (habove : 2 * num < 2 * (m * den) + den)
    (hbelow : 2 * (m * den) < 2 * num + den) : roundDiv num den = m := by
  have hle := le_roundDiv num hden
  have hge := roundDiv_mul_le num hden
  refine Nat.le_antisymm (Nat.lt_succ_iff.mp ?_) (Nat.lt_succ_iff.mp ?_)
  · refine Nat.lt_of_mul_lt_mul_right (a := den) ?_
    rw [Nat.succ_mul]
    omega
  · refine Nat.lt_of_mul_lt_mul_right (a := den) ?_
    rw [Nat.succ_mul]
    omega

/-- Rounding to integers keeps the order of quotients. -/
theorem roundDiv_mono (hden : 0 < den) (h : num ≤ num') :
    roundDiv num den ≤ roundDiv num' den := by
  by_contra hless
  rw [Nat.not_le] at hless
  -- The two integers differ by one, so both quotients are the number halfway between them.
  have hge := roundDiv_mul_le num hden
  have hle := le_roundDiv num' hden
  have hstep : (roundDiv num' den + 1) * den ≤ roundDiv num den * den :=
    Nat.mul_le_mul_right den hless
  rw [Nat.add_mul, Nat.one_mul] at hstep
  obtain rfl : num = num' := by omega
  exact Nat.lt_irrefl _ hless

theorem log2_mono (h : n ≤ n') : n.log2 ≤ n'.log2 := by
  rw [Nat.log2_eq_log_two, Nat.log2_eq_log_two]
  exact Nat.log_mono_right h

/-- A double is a multiple of the spacing at a number, or it is below all numbers with that
spacing. -/
theorem IsDouble.dvd_or_lt (hm : IsDouble m) (n : Nat) :
    spacing n ∣ m ∨ m < spacing n * 2 ^ 52 ∧ spacing n * 2 ^ 52 ≤ n := by
  obtain ⟨k, e, hk, rfl⟩ := hm
  rcases Nat.lt_or_ge e (n.log2 - 52) with hlt | hge
  · refine or_iff_not_imp_left.mpr fun hnot => ?_
    have hgap : 1 < spacing n := Nat.one_lt_two_pow (Nat.ne_zero_of_lt hlt)
    refine ⟨lt_of_le_of_ne ?_ fun heq => hnot (heq ▸ Nat.dvd_mul_right _ _), spacing_mul_le hgap⟩
    calc k * 2 ^ e ≤ 2 ^ 53 * 2 ^ e := Nat.mul_le_mul_right _ hk
      _ = 2 ^ (e + 1) * 2 ^ 52 := by ring
      _ ≤ spacing n * 2 ^ 52 := Nat.mul_le_mul_right _ (Nat.pow_le_pow_right (by decide) hlt)
  · exact Or.inl ((Nat.pow_dvd_pow 2 hge).trans (Nat.dvd_mul_left _ _))

/-- A double is a multiple of the spacing at every smaller number. -/
theorem IsDouble.spacing_dvd (hm : IsDouble m) (h : n ≤ m) : spacing n ∣ m := by
  obtain ⟨k, e, hk, rfl⟩ := hm
  exact Binary64.spacing_dvd hk h

/-- The rounded quotient is above the exact one by half of the spacing at most. -/
theorem roundQuotient_mul_le (num : Nat) (hden : 0 < den) :
    2 * (roundQuotient num den * den) ≤ 2 * num + den * spacing (num / den) := by
  rw [roundQuotient_mul_den]
  exact roundDiv_mul_le num (Nat.mul_pos hden (spacing_pos (num / den)))

/-- Rounding does not pass a multiple of the spacing. -/
theorem le_roundQuotient_of_dvd (hden : 0 < den) (hdvd : spacing (num / den) ∣ m)
    (h : m * den ≤ num) : m ≤ roundQuotient num den := by
  obtain ⟨k, rfl⟩ := hdvd
  have hspacing := spacing_pos (num / den)
  have hexact := roundDiv_mul k (Nat.mul_pos hden hspacing)
  rw [roundQuotient, Nat.mul_comm (spacing _) k]
  refine Nat.mul_le_mul_right _ ?_
  rw [← hexact]
  refine roundDiv_mono (Nat.mul_pos hden hspacing) ?_
  calc k * (den * spacing (num / den)) = spacing (num / den) * k * den := by ring
    _ ≤ num := h

/-- **Rounding keeps the order** of quotients. -/
theorem roundQuotient_mono (hden : 0 < den) (h : num ≤ num') :
    roundQuotient num den ≤ roundQuotient num' den := by
  have hquotient : num / den ≤ num' / den := Nat.div_le_div_right h
  rcases Nat.lt_or_ge (num / den).log2 (num' / den).log2 with hlog | hlog
  · -- A power of two lies between the quotients, and rounding passes it on neither side.
    have hlow : num / den < 2 ^ (num' / den).log2 :=
      Nat.lt_log2_self.trans_le (Nat.pow_le_pow_right (by decide) hlog)
    have hhigh : 2 ^ (num' / den).log2 ≤ num' / den := by
      refine Nat.log2_self_le ?_
      rintro hzero
      rw [hzero] at hlog
      exact absurd hlog (Nat.not_lt_zero _)
    calc roundQuotient num den ≤ 2 ^ (num' / den).log2 :=
          roundQuotient_le hden ((isDouble_two_pow _).spacing_dvd hlow.le)
            ((Nat.div_lt_iff_lt_mul hden).mp hlow).le
      _ ≤ roundQuotient num' den :=
          le_roundQuotient_of_dvd hden (Nat.pow_dvd_pow 2 (Nat.sub_le _ _))
            ((Nat.le_div_iff_mul_le hden).mp hhigh)
  · -- Both quotients are rounded to multiples of the same spacing.
    have hsame : (num / den).log2 = (num' / den).log2 :=
      Nat.le_antisymm (log2_mono hquotient) hlog
    rw [roundQuotient, roundQuotient, spacing, spacing, hsame]
    exact Nat.mul_le_mul_right _ (roundDiv_mono (Nat.mul_pos hden (Nat.two_pow_pos _)) h)

/-- Rounding keeps a double. -/
theorem IsDouble.roundQuotient_mul (hm : IsDouble m) (hden : 0 < den) :
    roundQuotient (m * den) den = m := by
  have hquotient : m * den / den = m := Nat.mul_div_cancel m hden
  obtain ⟨k, hk⟩ := hm.spacing_dvd le_rfl
  have hexact : m * den = k * (den * spacing (m * den / den)) := by
    rw [hquotient]
    calc m * den = spacing m * k * den := by rw [← hk]
      _ = k * (den * spacing m) := by ring
  exact Nat.eq_of_mul_eq_mul_right hden (roundQuotient_of_eq hden hexact)

/-- What a quotient is rounded to is a double. -/
theorem isDouble_roundQuotient (num : Nat) (hden : 0 < den) :
    IsDouble (roundQuotient num den) := by
  refine ⟨roundDiv num (den * spacing (num / den)), (num / den).log2 - 52, ?_, rfl⟩
  have hspacing := spacing_pos (num / den)
  refine roundDiv_le (Nat.mul_pos hden hspacing) ?_
  have hquotient : num / den < 2 ^ 53 * spacing (num / den) := by
    calc num / den < 2 ^ ((num / den).log2 + 1) := Nat.lt_log2_self
      _ ≤ 2 ^ (53 + ((num / den).log2 - 52)) := Nat.pow_le_pow_right (by decide) (by omega)
      _ = 2 ^ 53 * spacing (num / den) := Nat.pow_add 2 53 _
  have hnum := (Nat.div_lt_iff_lt_mul hden).mp hquotient
  calc num ≤ 2 ^ 53 * spacing (num / den) * den := hnum.le
    _ = 2 ^ 53 * (den * spacing (num / den)) := by ring

/-- Different multiples of a number are at least that number apart. -/
theorem add_le_of_dvd {s a b : Nat} (ha : s ∣ a) (hb : s ∣ b) (h : a < b) : a + s ≤ b := by
  have hdifference := Nat.le_of_dvd (Nat.sub_pos_of_lt h) (Nat.dvd_sub hb ha)
  omega

/-- Where a quotient is rounded up, the doubles below it are a spacing below the rounded quotient at
least. -/
theorem IsDouble.add_spacing_le (hm : IsDouble m) (hden : 0 < den) (hbelow : m * den ≤ num)
    (hup : num < roundQuotient num den * den) :
    m + spacing (num / den) ≤ roundQuotient num den := by
  have hmultiple : spacing (num / den) ∣ roundQuotient num den := Nat.dvd_mul_left _ _
  have hless : ∀ {k : Nat}, k * den ≤ num → k < roundQuotient num den := fun hk =>
    Nat.lt_of_mul_lt_mul_right (hk.trans_lt hup)
  rcases hm.dvd_or_lt (num / den) with hdvd | ⟨hsmall, hbits⟩
  · exact add_le_of_dvd hdvd hmultiple (hless hbelow)
  · -- The least number with this spacing is between the double and the quotient.
    have hleast := add_le_of_dvd (Nat.dvd_mul_right _ _) hmultiple
      (hless ((Nat.le_div_iff_mul_le hden).mp hbits))
    omega

/-- Where a quotient is rounded down, the doubles above it are a spacing above the rounded quotient
at least. -/
theorem IsDouble.spacing_add_le (hm : IsDouble m) (habove : num ≤ m * den)
    (hdown : roundQuotient num den * den < num) :
    roundQuotient num den + spacing (num / den) ≤ m := by
  have hquotient : num / den ≤ m := Nat.div_le_of_le_mul (by rwa [Nat.mul_comm])
  exact add_le_of_dvd (Nat.dvd_mul_left _ _) (hm.spacing_dvd hquotient)
    (Nat.lt_of_mul_lt_mul_right (hdown.trans_le habove))

/-- **Rounding to nearest.**  No double is nearer to a quotient than what the quotient is rounded
to. -/
theorem roundQuotient_nearest (num : Nat) (hden : 0 < den) (hm : IsDouble m) :
    ((roundQuotient num den * den : Nat) - num : Int).natAbs ≤
      ((m * den : Nat) - num : Int).natAbs := by
  have hle := le_roundQuotient num hden
  have hge := roundQuotient_mul_le num hden
  have hmono : ∀ {a b : Nat}, a + spacing (num / den) ≤ b →
      a * den + den * spacing (num / den) ≤ b * den := by
    intro a b hab
    have := Nat.mul_le_mul_right den hab
    rwa [Nat.add_mul, Nat.mul_comm (spacing _)] at this
  rcases Nat.le_total (m * den) num with hbelow | habove
  · have hkept := roundQuotient_mono hden hbelow
    rw [hm.roundQuotient_mul hden] at hkept
    have hkept' := Nat.mul_le_mul_right den hkept
    rcases Nat.lt_or_ge num (roundQuotient num den * den) with hup | hdown
    · have hgap := hmono (hm.add_spacing_le hden hbelow hup)
      omega
    · omega
  · have hkept := roundQuotient_mono hden habove
    rw [hm.roundQuotient_mul hden] at hkept
    have hkept' := Nat.mul_le_mul_right den hkept
    rcases Nat.lt_or_ge (roundQuotient num den * den) num with hdown | hup
    · have hgap := hmono (hm.spacing_add_le habove hdown)
      omega
    · omega

end Catalogue.Binary64
