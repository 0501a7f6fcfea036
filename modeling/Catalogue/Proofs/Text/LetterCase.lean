import Mathlib
import Catalogue.Proofs.Text.CaseRun
import Catalogue.Text.Blank

/-!
# Which letters a case mapping can yield

Few characters outside ASCII have an ASCII letter as their lower or upper case: the sign for kelvin
becomes `k`, the dotless `i` and the long `s` become `I` and `S`, and some ligatures become several
letters.  A word that avoids these letters is therefore the lower case of a text exactly when it is
its ASCII lower case (`lowerChars_eq_iff`), and likewise for upper case (`upperChars_eq_iff`).
-/

namespace Catalogue.Text

/-- A letter of ASCII is no blank. -/
theorem isBlank_eq_false_of_isAlpha {c : Char} (h : c.isAlpha = true) : isBlank c = false := by
  simp only [Char.isAlpha, Char.isUpper, Char.isLower, UInt32.le_iff_toNat_le, isBlank,
    Char.toNat] at *
  simp at *
  omega

/-- A letter in the sense of `Char.isAlpha` belongs to ASCII. -/
theorem isAscii_of_isAlpha {c : Char} (h : c.isAlpha = true) : isAscii c = true := by
  simp only [Char.isAlpha, Char.isUpper, Char.isLower, UInt32.le_iff_toNat_le, isAscii,
    Char.toNat] at *
  simp at *
  omega

theorem lowerChar_of_isAscii {c : Char} (h : isAscii c = true) : lowerChar c = [c.toLower] := by
  simp [lowerChar, h]

theorem upperChar_of_isAscii {c : Char} (h : isAscii c = true) : upperChar c = [c.toUpper] := by
  simp [upperChar, h]

/-- What a table of runs yields in ASCII: every run either stays above ASCII or moves one code point
to one of a few letters. -/
structure AsciiImages (runs : List CaseRun) where
  letters : List Nat
  zero_not_mem : 0 ∉ letters
  above_or_mem : ∀ run ∈ runs, 0x80 ≤ run.first + run.shift ∨
    run.first = run.last ∧ (run.first + run.shift).toNat ∈ letters

namespace AsciiImages

variable {runs : List CaseRun} {run : CaseRun} {c d : Char}

/-- No run moves a code point below zero. -/
theorem nonneg (images : AsciiImages runs) (hrun : run ∈ runs) : 0 ≤ run.first + run.shift := by
  rcases images.above_or_mem run hrun with habove | ⟨-, hmem⟩
  · omega
  · by_contra hbelow
    rw [Int.toNat_of_nonpos (by omega)] at hmem
    exact images.zero_not_mem hmem

/-- A letter that the table yields is one of those listed. -/
theorem toNat_mem (images : AsciiImages runs) (hmoved : movedBy? runs c = some d)
    (hd : d.isAlpha = true) : d.toNat ∈ images.letters := by
  obtain ⟨run, hrun, ⟨hfirst, hlast, -⟩, rfl⟩ := exists_lists_of_movedBy?_eq_some hmoved
  have hascii := isAscii_of_isAlpha hd
  have hvalid : (Char.ofNat (c.toNat + run.shift).toNat).toNat = (c.toNat + run.shift).toNat := by
    rw [Char.toNat_ofNat]
    split
    · rfl
    · next hinvalid =>
        rw [Char.ofNat, dif_neg hinvalid] at hd
        exact absurd hd (by decide)
  simp only [isAscii, decide_eq_true_eq] at hascii
  rw [hvalid] at hascii ⊢
  rcases images.above_or_mem run hrun with habove | ⟨hsingle, hmem⟩
  · omega
  · have hc : c.toNat = run.first := by omega
    rwa [hc]

/-- Outside ASCII, a letter that the table yields or leaves as it is is one of those listed. -/
theorem toNat_getD_mem (images : AsciiImages runs) (h : isAscii c = false)
    (hletter : ((movedBy? runs c).getD c).isAlpha = true) :
    ((movedBy? runs c).getD c).toNat ∈ images.letters := by
  cases hmoved : movedBy? runs c with
  | none =>
      rw [hmoved, Option.getD_none] at hletter
      simp [isAscii_of_isAlpha hletter] at h
  | some d =>
      rw [hmoved, Option.getD_some] at hletter
      exact images.toNat_mem hmoved hletter

end AsciiImages

/-- Outside ASCII, the sign for kelvin alone has a letter of ASCII as its lower case. -/
def lowerImages : AsciiImages lowerRuns where
  letters := ['k'.toNat]
  zero_not_mem := by decide
  above_or_mem := by decide +kernel

/-- Outside ASCII, the dotless `i` and the long `s` alone have a letter of ASCII as their upper
case. -/
def upperImages : AsciiImages upperRuns where
  letters := ['I'.toNat, 'S'.toNat]
  zero_not_mem := by decide
  above_or_mem := by decide +kernel

/-- The runs for lower case and their images are apart. -/
theorem lowerRuns_isApart :
    (lowerRuns.all fun run => lowerRuns.all (run.image.isApart ·)) = true := by
  simp only [all_eq_rec]
  decide +kernel

/-- What lower case moves a character to, it does not move. -/
theorem movedBy?_lowerRuns_eq_none {c d : Char} (h : movedBy? lowerRuns c = some d) :
    movedBy? lowerRuns d = none := by
  obtain ⟨run, hrun, hlists, rfl⟩ := exists_lists_of_movedBy?_eq_some h
  have himage := hlists.image (lowerImages.nonneg hrun)
  by_cases hvalid : ((c.toNat : Int) + run.shift).toNat.isValidChar
  · rw [movedBy?, Option.map_eq_none_iff, List.findSome?_eq_none_iff, Char.toNat_ofNat,
      if_pos hvalid]
    intro other hother
    have hapart := List.all_eq_true.mp (List.all_eq_true.mp lowerRuns_isApart run hrun)
    exact CaseRun.target?_eq_none_iff.mpr (himage.not_of_isApart (hapart other hother))
  · rw [Char.ofNat, dif_neg hvalid]
    cbv

/-- Every expansion to upper case holds a character that is no letter, or an `F` or `S`. -/
theorem upperExpansions_avoid :
    ∀ entry ∈ upperExpansions, ∃ n ∈ entry.2,
      (Char.ofNat n).isAlpha = false ∨ n = 'F'.toNat ∨ n = 'S'.toNat := by
  decide +kernel

/-- Outside ASCII, the lower case of a character holds no letter other than `k`, or also some
character that is no letter. -/
theorem exists_mem_lowerChar {c : Char} (h : isAscii c = false) :
    ∃ d ∈ lowerChar c, d.isAlpha = true → d = 'k' := by
  by_cases hdotted : c = 'İ'
  · exact ⟨Char.ofNat 0x307, by simp [lowerChar, hdotted, isAscii], by decide⟩
  refine ⟨(movedBy? lowerRuns c).getD c, by simp [lowerChar, h, hdotted], fun hd => ?_⟩
  have hk := lowerImages.toNat_getD_mem h hd
  exact Char.toNat_inj.mp (by simpa only [lowerImages, List.mem_singleton] using hk)

/-- Outside ASCII, the upper case of a character holds a character that is no letter, or one of
`F`, `I` and `S`. -/
theorem exists_mem_upperChar {c : Char} (h : isAscii c = false) :
    ∃ d ∈ upperChar c, d.isAlpha = true → d = 'F' ∨ d = 'I' ∨ d = 'S' := by
  cases hexpanded : expandedBy? upperExpansions c with
  | some ds =>
      obtain ⟨ns, hlookup, rfl⟩ := Option.map_eq_some_iff.mp hexpanded
      obtain ⟨earlier, later, htable, -⟩ := List.lookup_eq_some_iff.mp hlookup
      have hentry : (c.toNat, ns) ∈ upperExpansions := htable ▸ List.mem_append_cons_self
      obtain ⟨n, hn, hletter⟩ := upperExpansions_avoid (c.toNat, ns) hentry
      refine ⟨Char.ofNat n, ?_, fun hd => ?_⟩
      · simpa [upperChar, h, hexpanded] using List.mem_map_of_mem hn
      · rcases hletter with hnone | rfl | rfl
        · simp [hd] at hnone
        · exact Or.inl (Char.ofNat_toNat _)
        · exact Or.inr (Or.inr (Char.ofNat_toNat _))
  | none =>
      refine ⟨(movedBy? upperRuns c).getD c, by simp [upperChar, h, hexpanded], fun hd => ?_⟩
      have hexception := upperImages.toNat_getD_mem h hd
      rcases List.mem_cons.mp hexception with hI | hS
      · exact Or.inr (Or.inl (Char.toNat_inj.mp hI))
      · exact Or.inr (Or.inr (Char.toNat_inj.mp (List.mem_singleton.mp hS)))

/-- In ASCII, lower case acts on each character by itself. -/
theorem lowerAfter_of_isAscii {before cs : List Char} (h : ∀ c ∈ cs, isAscii c = true) :
    lowerAfter before cs = cs.map Char.toLower := by
  induction cs generalizing before with
  | nil => rfl
  | cons c cs ih =>
      have hc := h c List.mem_cons_self
      have hsigma : c ≠ 'Σ' := by
        rintro rfl
        simp [isAscii] at hc
      rw [lowerAfter, if_neg hsigma, lowerChar_of_isAscii hc,
        ih (fun d hd => h d (List.mem_cons_of_mem c hd))]
      rfl

/-- In ASCII, upper case acts on each character by itself. -/
theorem upperChars_of_isAscii {cs : List Char} (h : ∀ c ∈ cs, isAscii c = true) :
    upperChars cs = cs.map Char.toUpper := by
  induction cs with
  | nil => rfl
  | cons c cs ih =>
      rw [upperChars, List.flatMap_cons, upperChar_of_isAscii (h c List.mem_cons_self),
        ← upperChars, ih (fun d hd => h d (List.mem_cons_of_mem c hd))]
      rfl

/-- A character outside ASCII leaves a trace in the lower case of every text that holds it. -/
theorem exists_mem_lowerAfter (before : List Char) {cs : List Char} {c : Char} (hc : c ∈ cs)
    (h : isAscii c = false) : ∃ d ∈ lowerAfter before cs, d.isAlpha = true → d = 'k' := by
  induction cs generalizing before with
  | nil => simp at hc
  | cons head cs ih =>
      rw [lowerAfter]
      rcases List.mem_cons.mp hc with rfl | hc
      · by_cases hsigma : c = 'Σ'
        · refine ⟨smallSigma before cs, by simp [hsigma], fun hd => ?_⟩
          unfold smallSigma at hd
          split at hd <;> exact absurd hd (by decide)
        · obtain ⟨d, hd, hletter⟩ := exists_mem_lowerChar h
          exact ⟨d, by simp [hsigma, hd], hletter⟩
      · obtain ⟨d, hd, hletter⟩ := ih (head :: before) hc
        exact ⟨d, List.mem_append_right _ hd, hletter⟩

/-- **Lower case of ASCII words.**  A word of ASCII letters other than `k` is the lower case of a
text only if it is its letter-by-letter lower case in ASCII. -/
theorem lowerChars_eq_iff {cs word : List Char} (h : ∀ d ∈ word, d.isAlpha = true ∧ d ≠ 'k') :
    lowerChars cs = word ↔ cs.map Char.toLower = word := by
  by_cases hascii : ∀ c ∈ cs, isAscii c = true
  · rw [lowerChars, lowerAfter_of_isAscii hascii]
  · push Not at hascii
    obtain ⟨c, hc, hnot⟩ := hascii
    constructor
    · rintro rfl
      obtain ⟨d, hd, hletter⟩ := exists_mem_lowerAfter [] hc (by simpa using hnot)
      exact absurd (hletter (h d hd).1) (h d hd).2
    · rintro rfl
      have halpha := (h _ (List.mem_map_of_mem hc)).1
      rw [Char.isAlpha_toLower_eq_isAlpha] at halpha
      exact absurd (isAscii_of_isAlpha halpha) hnot

/-- **Upper case of ASCII words.**  A word of ASCII letters other than `F`, `I` and `S` is the upper
case of a text only if it is its letter-by-letter upper case in ASCII. -/
theorem upperChars_eq_iff {cs word : List Char}
    (h : ∀ d ∈ word, d.isAlpha = true ∧ ¬ (d = 'F' ∨ d = 'I' ∨ d = 'S')) :
    upperChars cs = word ↔ cs.map Char.toUpper = word := by
  by_cases hascii : ∀ c ∈ cs, isAscii c = true
  · rw [upperChars_of_isAscii hascii]
  · push Not at hascii
    obtain ⟨c, hc, hnot⟩ := hascii
    constructor
    · rintro rfl
      obtain ⟨d, hd, hletter⟩ := exists_mem_upperChar (c := c) (by simpa using hnot)
      have hmem : d ∈ upperChars cs := List.mem_flatMap.mpr ⟨c, hc, hd⟩
      exact absurd (hletter (h d hmem).1) (h d hmem).2
    · rintro rfl
      have halpha := (h _ (List.mem_map_of_mem hc)).1
      rw [Char.isAlpha_toUpper_eq_isAlpha] at halpha
      exact absurd (isAscii_of_isAlpha halpha) hnot

end Catalogue.Text
