import Catalogue.Proofs.Collation

/-!
# Accents in collation

The first component of a collation key is made of the base letters of a text.  They are found letter
by letter, so the base letters of two texts that are put together are those of the one and of the
other, although canonical order moves marks across the boundary.  A combining mark is decomposed
into combining marks, so it has no base letters, wherever it stands (`baseChar_of_mark`).
-/

namespace Catalogue

namespace Text

/-- A combining mark is listed in a range of its class. -/
theorem exists_mem_combiningRanges {c : Char} (h : combiningClass c ≠ 0) :
    ∃ range ∈ combiningRanges, range.1 ≤ c.toNat ∧ c.toNat ≤ range.2.1 := by
  unfold combiningClass at h
  dsimp only at h
  split at h
  · exact absurd rfl h
  · split at h
    · next range hfound =>
        have hinside := List.find?_some hfound
        simp only [Bool.and_eq_true, decide_eq_true_eq] at hinside
        exact ⟨range, List.mem_of_find?_eq_some hfound, hinside⟩
    · exact absurd rfl h

/-- Whether a listed mark stands for itself or is decomposed into marks. -/
def staysMark (c : Char) : Bool :=
  decompose c = [c] || (decompose c).all (combiningClass · ≠ 0)

theorem staysMark_of_mem_combiningRanges :
    (combiningRanges.all fun range => (List.range' range.1 (range.2.1 + 1 - range.1)).all fun n =>
      staysMark (Char.ofNat n)) = true := by
  unfold staysMark decompose combiningClass
  simp only [lookup_eq_find?, all_eq_rec, find?_eq_rec]
  decide +kernel

/-- **Marks** are decomposed into marks. -/
theorem combiningClass_of_mem_decompose {c d : Char} (h : combiningClass c ≠ 0)
    (hd : d ∈ decompose c) : combiningClass d ≠ 0 := by
  obtain ⟨range, hrange, hfirst, hlast⟩ := exists_mem_combiningRanges h
  have hinside : c.toNat ∈ List.range' range.1 (range.2.1 + 1 - range.1) :=
    List.mem_range'_1.mpr (by omega)
  have hranges := List.all_eq_true.mp staysMark_of_mem_combiningRanges range hrange
  have hstays := List.all_eq_true.mp hranges c.toNat hinside
  rw [Char.ofNat_toNat, staysMark, Bool.or_eq_true, decide_eq_true_eq] at hstays
  rcases hstays with hself | hmarks
  · rw [hself, List.mem_singleton] at hd
    rwa [hd]
  · simpa using List.all_eq_true.mp hmarks d hd

/-- A mark has no base letters. -/
theorem baseChar_of_mark {c : Char} (h : combiningClass c ≠ 0) : baseChar c = [] := by
  have hnone : (decompose c).filter (combiningClass · = 0) = [] := by
    rw [List.filter_eq_nil_iff]
    intro d hd
    simpa using combiningClass_of_mem_decompose h hd
  rw [baseChar, hnone]
  rfl

end Text

namespace CollationKey

/-- The first component of a key, letter by letter. -/
theorem base_ofText (s : String) : (ofText s).base = s.toList.flatMap Text.baseChar :=
  Text.foldChars_baseChars s.toList

/-- The first components of two texts are put together as the texts are. -/
theorem base_append (a b : String) :
    (ofText (a ++ b)).base = (ofText a).base ++ (ofText b).base := by
  rw [base_ofText, base_ofText, base_ofText, String.toList_append, List.flatMap_append]

/-- A mark adds nothing to the first component. -/
theorem base_of_mark {mark : Char} (h : Text.combiningClass mark ≠ 0) :
    (ofText (String.singleton mark)).base = [] := by
  rw [base_ofText, String.toList_singleton, List.flatMap_singleton, Text.baseChar_of_mark h]

/-- **Accents** never influence the first component of a key.  It is put together as texts are, a
mark can be added anywhere, and texts with the same characters besides marks, once they are
decomposed, have the same one. -/
theorem base_without_accents (a b : String) :
    (ofText (a ++ b)).base = (ofText a).base ++ (ofText b).base ∧
      (∀ mark, Text.combiningClass mark ≠ 0 →
        (ofText (a ++ String.singleton mark ++ b)).base = (ofText (a ++ b)).base) ∧
      ((Text.compatibilityForm a.toList).filter (Text.combiningClass · = 0) =
          (Text.compatibilityForm b.toList).filter (Text.combiningClass · = 0) →
        (ofText a).base = (ofText b).base) := by
  refine ⟨base_append a b, fun mark hmark => ?_, fun hsame => ?_⟩
  · rw [base_append, base_append, base_append, base_of_mark hmark, List.append_nil]
  · exact congrArg Text.foldChars hsame

/-- A mark below a letter, which is put before the accent that the letter has. -/
theorem base_without_accents_below :
    Text.combiningClass (Char.ofNat 0x323) ≠ 0 ∧
      (ofText ("Café" ++ String.singleton (Char.ofNat 0x323) ++ " noir")).base =
        (ofText ("Café" ++ " noir")).base := by
  have hmark : Text.combiningClass (Char.ofNat 0x323) ≠ 0 := by decide
  exact ⟨hmark, (base_without_accents "Café" " noir").2.1 _ hmark⟩

end CollationKey

end Catalogue
