import Mathlib
import Catalogue.Page
import Catalogue.Proofs.Number.Ceiling

/-!
# How many pages there are

A page counts the pages by rounding up a quotient that was rounded to a double before.  This is the
least number of pages that have room for all items exactly if the double keeps what the quotient is
rounded up to (`totalPages_isLeast_iff`).  It always does up to 2⁵³ items on pages of less than
2¹⁰⁷⁵.  On pages so large that the quotient is rounded to zero, no page is counted at all.
-/

namespace Catalogue.Page

variable {α : Type} {total : Nat} {slice : Nat → Nat → List α} {number size : Int} {p : Page α}

/-- A page tells the length of the sequence and the size that was asked for. -/
theorem of_ofSlices (h : ofSlices total slice number size = .ok p) :
    0 < p.size ∧ p.size = size.toNat ∧ p.totalItems = total := by
  unfold ofSlices at h
  split at h
  · cases h
  · cases h
    exact ⟨by dsimp only; omega, rfl, rfl⟩

/-- The least number of pages that have room for some items is their number divided by the size and
rounded up. -/
theorem isLeast_iff {items size n : Nat} (hsize : 0 < size) :
    IsLeast {n | items ≤ n * size} n ↔ n = items ⌈/⌉ size := by
  have hleast : IsLeast {n | items ≤ n * size} (items ⌈/⌉ size) :=
    ⟨(Binary64.ceilDiv_le_iff hsize).mp le_rfl, fun _ hn => (Binary64.ceilDiv_le_iff hsize).mpr hn⟩
  exact ⟨fun h => h.unique hleast, fun h => h ▸ hleast⟩

/-- No page is counted when the quotient is at most half of a quantum. -/
theorem totalPages_eq_zero_iff (hsize : 0 < p.size) :
    p.totalPages = 0 ↔ p.totalItems * 2 ^ 1075 ≤ p.size := by
  rw [totalPages, ← Nat.le_zero, Binary64.ceilQuanta_le_iff, Nat.zero_mul, Nat.le_zero,
    Binary64.roundQuotient_eq_zero_iff hsize, Binary64.two_mul_mul_unit]

/-- **The number of pages.**  A page of a sequence counts as few pages as have room for all items
exactly if the quotient of their number and the size, rounded to a double, keeps what it is rounded
up to.  It counts none exactly if the size is at least 2¹⁰⁷⁵ times the number of items.  Up to 2⁵³
items on pages of less than 2¹⁰⁷⁵ the count is right. -/
theorem totalPages_isLeast_iff (h : ofSlices total slice number size = .ok p) :
    (IsLeast {n | total ≤ n * size.toNat} p.totalPages ↔
      Binary64.KeepsCeil total size.toNat) ∧
    (p.totalPages = 0 ↔ total * 2 ^ 1075 ≤ size.toNat) ∧
    (total ≤ 2 ^ 53 → size.toNat < 2 ^ 1075 → Binary64.KeepsCeil total size.toNat) := by
  obtain ⟨hsize, hsame, rfl⟩ := of_ofSlices h
  rw [← hsame]
  refine ⟨?_, totalPages_eq_zero_iff hsize, fun hitems hsmall => ?_⟩
  · rw [isLeast_iff hsize, totalPages, Binary64.ceilQuanta_roundQuotient_iff hsize]
  · refine (Binary64.ceilQuanta_roundQuotient_iff hsize).mp ?_
    have hunit := Binary64.two_mul_mul_unit 1
    rw [Nat.one_mul, Nat.one_mul] at hunit
    exact Binary64.ceilQuanta_roundQuotient hitems hsize (hunit ▸ hsmall)

/-- The second of the three pages of five items. -/
theorem totalPages_isLeast_five :
    ofList ['a', 'b', 'c', 'd', 'e'] 2 2 = .ok ⟨['c', 'd'], 2, 2, 5⟩ ∧
      IsLeast {n | 5 ≤ n * 2} (⟨['c', 'd'], 2, 2, 5⟩ : Page Char).totalPages := by
  have hpage : ofList ['a', 'b', 'c', 'd', 'e'] 2 2 = .ok ⟨['c', 'd'], 2, 2, 5⟩ := by decide
  have hsmall : 2 < 2 ^ 1075 := lt_self_pow₀ (by decide) (by decide)
  obtain ⟨hleast, -, hkeeps⟩ := totalPages_isLeast_iff hpage
  exact ⟨hpage, hleast.mpr (hkeeps (by decide) hsmall)⟩

/-- One item on a page for 10³²⁴ of them makes no page, though it needs one. -/
theorem totalPages_single_item :
    ∃ p, ofCount 1 1 (10 ^ 324) = .ok p ∧ p.items = [0] ∧
      p.footer = "1 results, showing 1-1 (page 1 of 0)" ∧
      ¬ IsLeast {n | p.totalItems ≤ n * p.size} p.totalPages := by
  have hzero : (⟨[0], 1, 10 ^ 324, 1⟩ : Page Nat).totalPages = 0 :=
    (totalPages_eq_zero_iff (Nat.pow_pos (by decide))).mpr (by decide +kernel)
  refine ⟨⟨[0], 1, 10 ^ 324, 1⟩, by decide +kernel, rfl, by decide +kernel, fun h => ?_⟩
  rw [hzero] at h
  have hroom : 1 ≤ 0 * 10 ^ 324 := h.1
  rw [Nat.zero_mul] at hroom
  exact absurd hroom (by decide)

end Catalogue.Page
