import Mathlib.Data.List.Basic

/-!
# Stable sorting

A merge sort by a total order keeps the order of elements that may all stand before each other
(`filter_mergeSort`).  So where the order leaves a choice between two elements, they stand as they
stood in the list (`pairwise_mergeSort_ties`).  This determines the result: two lists in order are
the same if they agree on the elements that tie with each other (`eq_of_filter_ties`).  So it makes
no difference whether elements are left out before sorting or after it (`mergeSort_filter`).  A list
in which certain elements come first is cut behind them (`eq_filter_append_filter`).
-/

namespace Catalogue

section StableSort

variable {α : Type} {le : α → α → Bool} (htrans : ∀ a b c, le a b = true → le b c = true →
  le a c = true) (htotal : ∀ a b, (le a b || le b a) = true)

include htrans

/-- Elements that tie with the same one may stand before each other. -/
theorem le_of_ties {a b c : α} (hb : (le a b && le b a) = true)
    (hc : (le a c && le c a) = true) : le b c = true := by
  rw [Bool.and_eq_true] at hb hc
  exact htrans b a c hb.2 hc.1

include htotal

/-- Elements that may all stand before each other are the same list before and after sorting. -/
theorem filter_mergeSort (l : List α) {p : α → Bool}
    (h : ∀ a b, p a = true → p b = true → le a b = true) :
    (l.mergeSort le).filter p = l.filter p := by
  have hpairwise : (l.filter p).Pairwise fun a b => le a b = true := by
    rw [List.pairwise_filter]
    exact List.pairwise_of_forall fun a b ha hb => h a b ha hb
  have hsublist : (l.filter p).Sublist (l.mergeSort le) :=
    List.sublist_mergeSort htrans htotal hpairwise List.filter_sublist
  have hkept := hsublist.filter p
  simp only [List.filter_filter, Bool.and_self] at hkept
  have hlength := ((List.mergeSort_perm l le).filter p).length_eq
  exact (hkept.eq_of_length hlength.symm).symm

/-- Elements that may stand before each other are sorted as they stood: what held of the earlier and
the later ones of a list holds of them. -/
theorem pairwise_mergeSort_ties {R : α → α → Prop} {l : List α} (hl : l.Pairwise R) :
    (l.mergeSort le).Pairwise fun a b => le a b = true ∧ (le b a = true → R a b) := by
  have hsorted := List.pairwise_mergeSort htrans htotal l
  refine List.pairwise_iff_forall_sublist.mpr fun {a b} hpair => ?_
  have hab : le a b = true := List.pairwise_iff_forall_sublist.mp hsorted hpair
  refine ⟨hab, fun hba => ?_⟩
  have haa : le a a = true := htrans a b a hab hba
  -- Both elements are among those that tie with the first one.
  have hkept := hpair.filter fun c => le a c && le c a
  rw [filter_mergeSort htrans htotal l fun _ _ => le_of_ties htrans] at hkept
  have hboth : [a, b].filter (fun c => le a c && le c a) = [a, b] := by
    simp [haa, hab, hba]
  rw [hboth] at hkept
  exact List.pairwise_iff_forall_sublist.mp (hl.filter _) hkept

omit htrans in
/-- Lists that agree on the elements that tie with each one hold the same elements. -/
theorem mem_iff_of_filter_ties {l l' : List α}
    (h : ∀ a, l.filter (fun b => le a b && le b a) = l'.filter (fun b => le a b && le b a))
    (a : α) : a ∈ l ↔ a ∈ l' := by
  have hself : le a a = true := by simpa using htotal a a
  have hmem := Iff.of_eq (congrArg (a ∈ ·) (h a))
  simpa [hself] using hmem

omit htrans in
/-- The head of a list in order is the least of its elements. -/
theorem le_of_mem_cons {a b : α} {l : List α} (h : (a :: l).Pairwise fun a b => le a b = true)
    (hb : b ∈ a :: l) : le a b = true := by
  rcases List.mem_cons.mp hb with rfl | hb
  · simpa using htotal b b
  · exact List.rel_of_pairwise_cons h hb

omit htrans in
/-- Two lists in order are equal if they agree on the elements that tie with each one. -/
theorem eq_of_filter_ties {l l' : List α} (hl : l.Pairwise fun a b => le a b = true)
    (hl' : l'.Pairwise fun a b => le a b = true)
    (h : ∀ a, l.filter (fun b => le a b && le b a) = l'.filter (fun b => le a b && le b a)) :
    l = l' := by
  have hself : ∀ a, le a a = true := fun a => by simpa using htotal a a
  have hmem := mem_iff_of_filter_ties htotal h
  induction l generalizing l' with
  | nil => exact (List.eq_nil_iff_forall_not_mem.mpr fun a => by simp [← hmem]).symm
  | cons a l ih =>
      cases l' with
      | nil => simpa using (hmem a).mp List.mem_cons_self
      | cons b l' =>
          have hab := le_of_mem_cons htotal hl ((hmem b).mpr List.mem_cons_self)
          have hba := le_of_mem_cons htotal hl' ((hmem a).mp List.mem_cons_self)
          -- The two heads tie, and both are the first element that ties with the first head.
          have hfirst := h a
          rw [List.filter_cons_of_pos (by simp [hself]),
            List.filter_cons_of_pos (by simp [hab, hba])] at hfirst
          obtain ⟨rfl, -⟩ := List.cons.inj hfirst
          have htails : ∀ c, l.filter (fun b => le c b && le b c) =
              l'.filter (fun b => le c b && le b c) := by
            intro c
            have hc := h c
            rw [List.filter_cons, List.filter_cons] at hc
            split at hc
            · exact (List.cons.inj hc).2
            · exact hc
          rw [ih hl.of_cons hl'.of_cons htails (mem_iff_of_filter_ties htotal htails)]

/-- Sorting some elements of a list leaves them as sorting the whole list does. -/
theorem mergeSort_filter (l : List α) (p : α → Bool) :
    (l.filter p).mergeSort le = (l.mergeSort le).filter p := by
  have hsorted := List.pairwise_mergeSort htrans htotal
  refine eq_of_filter_ties htotal (hsorted _) ((hsorted l).filter p) fun a => ?_
  have hties := fun l => filter_mergeSort htrans htotal l fun _ _ => le_of_ties (a := a) htrans
  rw [hties, List.filter_comm, ← hties l, List.filter_comm]

end StableSort

/-- Where no other element stands in front of the elements with a property, these come first. -/
theorem eq_filter_append_filter {α : Type} {p : α → Bool} {l : List α}
    (h : l.Pairwise fun a b => p b = true → p a = true) :
    l = l.filter p ++ l.filter (!p ·) := by
  induction l with
  | nil => rfl
  | cons a l ih =>
      rw [List.pairwise_cons] at h
      by_cases ha : p a = true
      · rw [List.filter_cons_of_pos ha, List.filter_cons_of_neg (by simp [ha]), List.cons_append,
          ← ih h.2]
      · have hnone : ∀ b ∈ a :: l, ¬ p b = true := by
          intro b hb
          rcases List.mem_cons.mp hb with rfl | hb
          · exact ha
          · exact fun hpb => ha (h.1 b hb hpb)
        rw [List.filter_eq_nil_iff.mpr hnone, List.nil_append,
          List.filter_eq_self.mpr fun b hb => by simpa using hnone b hb]

end Catalogue
