import Mathlib
import Catalogue.Calendar

/-!
# The order of days

A year ends where the next one begins (`daysBeforeYear_succ`), and so does a month within a year
(`daysBeforeMonth_succ`).  So a date is before another one in the calendar exactly when it has a
smaller number (`ordinal_lt_iff`).
-/

namespace Catalogue

namespace Calendar

/-- The number of days of a year before the first day of a month. -/
def daysBeforeMonth (year month : Nat) : Nat :=
  ((monthLengths year).take (month - 1)).sum

/-- The days of a year are numbered from its first one on. -/
theorem ordinal_eq (year month day : Nat) :
    ordinal year month day = daysBeforeYear year + daysBeforeMonth year month + day := by
  have hsum : ∀ (l : List Nat) (n : Nat), l.foldl Nat.add n = n + l.sum := by
    intro l
    induction l with
    | nil => simp
    | cons a l ih =>
        intro n
        rw [List.foldl_cons, ih, List.sum_cons, Nat.add_eq, Nat.add_assoc]
  rw [ordinal, hsum, Nat.zero_add, daysBeforeMonth]

variable {year year' month month' day day' : Nat}

/-- The leap years of the Gregorian calendar. -/
theorem isLeap_iff : isLeap year = true ↔ 4 ∣ year ∧ (¬ 100 ∣ year ∨ 400 ∣ year) := by
  simp [isLeap, Nat.dvd_iff_mod_eq_zero]

/-- A year ends where the next one begins. -/
theorem daysBeforeYear_succ (h : 1 ≤ year) :
    daysBeforeYear (year + 1) = daysBeforeYear year + yearLength year := by
  obtain ⟨y, rfl⟩ := Nat.exists_eq_add_of_le' h
  have hcenturies : y / 100 ≤ y := Nat.div_le_self y 100
  have hcentury : 400 ∣ y + 1 → 100 ∣ y + 1 := (by decide : 100 ∣ 400).trans
  have hfourth : 100 ∣ y + 1 → 4 ∣ y + 1 := (by decide : 4 ∣ 100).trans
  simp only [daysBeforeYear, yearLength, isLeap_iff, Nat.add_sub_cancel, Nat.succ_div]
  generalize y / 4 = fourths, y / 100 = centuries, y / 400 = cycles at *
  by_cases h400 : 400 ∣ y + 1
  · simp only [h400, hcentury h400, hfourth (hcentury h400)]
    simp
    omega
  · by_cases h100 : 100 ∣ y + 1
    · simp only [h400, h100, hfourth h100]
      simp
      omega
    · by_cases h4 : 4 ∣ y + 1 <;> simp [h400, h100, h4] <;> omega

/-- Before a later year there are no fewer days. -/
theorem daysBeforeYear_mono (h : 1 ≤ year) (hle : year ≤ year') :
    daysBeforeYear year ≤ daysBeforeYear year' := by
  induction year', hle using Nat.le_induction with
  | base => exact le_rfl
  | succ y hy ih =>
      rw [daysBeforeYear_succ (h.trans hy)]
      omega

/-- A month ends where the next one begins. -/
theorem daysBeforeMonth_succ (year : Nat) (h : 1 ≤ month) :
    daysBeforeMonth year (month + 1) =
      daysBeforeMonth year month + (monthLengths year).getD (month - 1) 0 := by
  obtain ⟨m, rfl⟩ := Nat.exists_eq_add_of_le' h
  simp only [daysBeforeMonth, Nat.add_sub_cancel]
  rw [List.take_add_one, List.sum_append, List.getD_eq_getElem?_getD]
  cases (monthLengths year)[m]? <;> simp

/-- Before a later month of a year there are no fewer days. -/
theorem daysBeforeMonth_mono (year : Nat) (h : 1 ≤ month) (hle : month ≤ month') :
    daysBeforeMonth year month ≤ daysBeforeMonth year month' := by
  induction month', hle using Nat.le_induction with
  | base => exact le_rfl
  | succ m hm ih =>
      rw [daysBeforeMonth_succ year (h.trans hm)]
      omega

/-- The months of a year are as long as the year. -/
theorem daysBeforeMonth_end (year : Nat) : daysBeforeMonth year 13 = yearLength year := by
  unfold daysBeforeMonth monthLengths yearLength
  cases isLeap year <;> rfl

/-- What a date is made of. -/
theorem isDate_iff :
    isDate year month day = true ↔
      (1 ≤ year ∧ year ≤ 9999) ∧ (1 ≤ month ∧ month ≤ 12) ∧ 1 ≤ day ∧
        day ≤ (monthLengths year).getD (month - 1) 0 := by
  simp [isDate, and_assoc]

/-- A date of a month comes before the next month begins. -/
theorem daysBeforeMonth_add_le (h : isDate year month day = true) (hlt : month < month') :
    daysBeforeMonth year month + day ≤ daysBeforeMonth year month' := by
  obtain ⟨-, ⟨hmonth, -⟩, -, hday⟩ := isDate_iff.mp h
  have hnext := daysBeforeMonth_mono year (Nat.le_add_left 1 month) hlt
  rw [daysBeforeMonth_succ year hmonth] at hnext
  omega

/-- A date of a year comes before the next year begins. -/
theorem ordinal_le_of_year_lt (h : isDate year month day = true) (hlt : year < year') :
    ordinal year month day ≤ daysBeforeYear year' := by
  obtain ⟨⟨hyear, -⟩, ⟨-, hmonth⟩, -⟩ := isDate_iff.mp h
  have hday := daysBeforeMonth_add_le h (show month < 13 by omega)
  have hnext := daysBeforeYear_mono (Nat.le_add_left 1 year) hlt
  rw [daysBeforeYear_succ hyear, ← daysBeforeMonth_end] at hnext
  rw [ordinal_eq]
  omega

/-- A date that comes first has a smaller number. -/
theorem ordinal_lt (h : isDate year month day = true) (h' : isDate year' month' day' = true)
    (hlt : [year, month, day] < [year', month', day']) :
    ordinal year month day < ordinal year' month' day' := by
  simp only [List.cons_lt_cons_iff, List.not_lt_nil, and_false, or_false] at hlt
  obtain ⟨-, -, hday', -⟩ := isDate_iff.mp h'
  rcases hlt with hyear | ⟨rfl, hmonth | ⟨rfl, hday⟩⟩
  · have hnext := ordinal_le_of_year_lt h hyear
    rw [ordinal_eq year' month' day']
    omega
  · have hnext := daysBeforeMonth_add_le h hmonth
    rw [ordinal_eq, ordinal_eq]
    omega
  · rw [ordinal_eq, ordinal_eq]
    omega

/-- **Days are numbered in order.** -/
theorem ordinal_lt_iff (h : isDate year month day = true) (h' : isDate year' month' day' = true) :
    ordinal year month day < ordinal year' month' day' ↔
      [year, month, day] < [year', month', day'] := by
  refine ⟨fun hlt => ?_, ordinal_lt h h'⟩
  rcases lt_trichotomy [year, month, day] [year', month', day'] with hless | heq | hmore
  · exact hless
  · simp only [List.cons.injEq, and_true] at heq
    obtain ⟨rfl, rfl, rfl⟩ := heq
    exact absurd hlt (Nat.lt_irrefl _)
  · exact absurd (ordinal_lt h' h hmore) hlt.asymm

theorem ordinal_le (h : isDate year month day = true) : ordinal year month day ≤ 3660000 := by
  obtain ⟨⟨hyear, hlast⟩, -⟩ := isDate_iff.mp h
  have hnext := ordinal_le_of_year_lt h (Nat.lt_succ_of_le hlast)
  exact hnext.trans (by decide)

end Calendar

end Catalogue
