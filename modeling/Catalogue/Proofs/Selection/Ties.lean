import Mathlib
import Catalogue.Proofs.Collation
import Catalogue.Proofs.Selection.Sorting

/-!
# Ties in sorted selections

Records with equal keys keep the order in which they came, so the result of sorting depends on the
arrangement of the records exactly when two different records tie (`sorted_eq_of_perm_iff`).  By
title or author, two records tie when the letters of their texts, spelled out, are the same.
-/

namespace Catalogue.Selection

variable {order : SortOrder}

/-- Two different records that tie keep the order in which they came. -/
theorem sorted_swap_ne {r s : Record} (hkey : SameKey order r s) (hne : r ≠ s)
    (rest : List Record) : sorted (r :: s :: rest) order ≠ sorted (s :: r :: rest) order := by
  intro heq
  have hfirst := (isStableSort_sorted (r :: s :: rest) order).stable r
  have hsecond := (isStableSort_sorted (s :: r :: rest) order).stable r
  rw [heq, hsecond] at hfirst
  simp only [List.filter_cons, hkey, sameKey_refl, decide_true, if_true] at hfirst
  exact hne (List.cons.inj hfirst).1.symm

/-- **Arrangement.**  Sorting gives the same result for every arrangement of the records exactly
when no two different records tie. -/
theorem sorted_eq_of_perm_iff {rs : List Record} :
    (∀ rs' : List Record, rs'.Perm rs → sorted rs' order = sorted rs order) ↔
      ∀ r ∈ rs, ∀ s ∈ rs, SameKey order r s → r = s := by
  constructor
  · intro hsorted r hr s hs hkey
    by_contra hne
    obtain ⟨rest, hrest⟩ : ∃ rest, (r :: s :: rest).Perm rs := by
      have hs' : s ∈ rs.erase r := (List.mem_erase_of_ne (Ne.symm hne)).mpr hs
      refine ⟨(rs.erase r).erase s, ?_⟩
      exact ((List.perm_cons_erase hs').symm.cons r).trans (List.perm_cons_erase hr).symm
    have hswapped : (s :: r :: rest).Perm rs := (List.Perm.swap r s rest).trans hrest
    exact sorted_swap_ne hkey hne rest ((hsorted _ hrest).trans (hsorted _ hswapped).symm)
  · intro h rs' hperm
    have hsame := (sorted_perm rs' order).trans (hperm.trans (sorted_perm rs order).symm)
    refine hsame.eq_of_pairwise ?_ (isStableSort_sorted rs' order).ordered
      (isStableSort_sorted rs order).ordered
    intro r s hr hs hrs hsr
    have hr' : r ∈ rs := hperm.mem_iff.mp ((sorted_perm rs' order).mem_iff.mp hr)
    have hs' : s ∈ rs := (sorted_perm rs order).mem_iff.mp hs
    exact h r hr' s hs' (sameKey_iff.mpr ⟨hrs, hsr⟩)

/-- **Ties.**  Texts with the same letters, spelled out, have the same collation key, and texts with
the same key have the same letters, an iota subscript being taken for an iota.  Records sorted by
title or author come out the same for every arrangement exactly when no two different ones have
texts with the same key. -/
theorem ties (a b : String) (rs : List Record) :
    (Text.spellOut a.toList = Text.spellOut b.toList →
      CollationKey.ofText a = CollationKey.ofText b) ∧
    (CollationKey.ofText a = CollationKey.ofText b →
      (Text.spellOut a.toList).map Text.fullIota = (Text.spellOut b.toList).map Text.fullIota) ∧
    ((∀ rs' : List Record, rs'.Perm rs → sorted rs' .titleAsc = sorted rs .titleAsc) ↔
      ∀ r ∈ rs, ∀ s ∈ rs,
        CollationKey.ofText (titleText r) = CollationKey.ofText (titleText s) → r = s) ∧
    ((∀ rs' : List Record, rs'.Perm rs → sorted rs' .authorAsc = sorted rs .authorAsc) ↔
      ∀ r ∈ rs, ∀ s ∈ rs,
        CollationKey.ofText (authorText r) = CollationKey.ofText (authorText s) → r = s) :=
  ⟨CollationKey.ofText_eq_of_spellOut_eq, CollationKey.spellOut_eq_of_ofText_eq,
    sorted_eq_of_perm_iff, sorted_eq_of_perm_iff⟩

/-- Titles that differ, with the same key, so that the order of the records in the list shows. -/
theorem ties_sharp_s :
    ("ß" ≠ "ss" ∧ CollationKey.ofText "ß" = CollationKey.ofText "ss") ∧
    sorted [{ id := 1, title := "ß" }, { id := 2, title := "ss" }] .titleAsc ≠
      sorted [{ id := 2, title := "ss" }, { id := 1, title := "ß" }] .titleAsc := by
  have hspelled : Text.spellOut "ß".toList = Text.spellOut "ss".toList := by decide +kernel
  have hkey := CollationKey.ofText_eq_of_spellOut_eq hspelled
  refine ⟨⟨by decide, hkey⟩, sorted_swap_ne ?_ (by decide) []⟩
  exact hkey

end Catalogue.Selection
