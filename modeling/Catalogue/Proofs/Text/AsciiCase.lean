import Mathlib
import Catalogue.Text.Blank
import Catalogue.Text.Case

/-!
# The case of ASCII letters

Texts are the same up to the case of ASCII letters if they are equal once their capital letters of
ASCII are made small.  This changes 26 characters only, so what it means for a character is checked
for these (`apply_toLower`).  It changes neither the lower nor the upper case of a text
(`lowerChars_map_toLower`, `upperChars_map_toLower`), also where the form of a sigma depends on the
letters around it: both letters of a pair are cased.
-/

namespace Catalogue.Text

/-- What does not tell a capital letter from its small one tells no character from it. -/
theorem apply_toLower {α : Type} {f : Char → α}
    (h : ∀ n < 26, f (Char.ofNat (n + 97)) = f (Char.ofNat (n + 65))) (c : Char) :
    f c.toLower = f c := by
  by_cases hupper : c.isUpper = true
  · rw [Char.toLower_eq_of_isUpper hupper]
    simp only [Char.isUpper, UInt32.le_iff_toNat_le, decide_eq_true_eq] at hupper
    have hlow : 65 ≤ c.toNat := hupper.1
    have hhigh : c.toNat ≤ 90 := hupper.2
    obtain ⟨n, hn⟩ := Nat.exists_eq_add_of_le' hlow
    have hpair := h n (by omega)
    rwa [← hn, Char.ofNat_toNat, show n + 97 = c.toNat + 32 by omega] at hpair
  · rw [Char.toLower_eq_of_not_isUpper hupper]

/-- A mark that is neither a capital nor a small letter is told from the same characters. -/
theorem toLower_eq_iff {mark : Char} (h : mark.isAlpha = false) (c : Char) :
    c.toLower = mark ↔ c = mark := by
  constructor
  · rintro rfl
    rw [Char.isAlpha_toLower_eq_isAlpha] at h
    refine (Char.toLower_eq_of_not_isUpper fun hupper => ?_).symm
    simp [Char.isAlpha, hupper] at h
  · rintro rfl
    refine Char.toLower_eq_of_not_isUpper fun hupper => ?_
    simp [Char.isAlpha, hupper] at h

@[simp] theorem isBlank_toLower (c : Char) : isBlank c.toLower = isBlank c :=
  apply_toLower (f := isBlank) (by decide) c

/-- Both letters of a pair are cased. -/
theorem isCased_toLower (c : Char) : isCased c.toLower = isCased c :=
  apply_toLower (f := isCased) (by decide +kernel) c

/-- None of the letters is skipped where a sigma looks for cased ones. -/
theorem isCaseIgnorable_toLower (c : Char) : isCaseIgnorable c.toLower = isCaseIgnorable c :=
  apply_toLower (f := isCaseIgnorable) (by decide +kernel) c

/-- Both letters of a pair have the same lower case. -/
theorem lowerChar_toLower (c : Char) : lowerChar c.toLower = lowerChar c :=
  apply_toLower (f := lowerChar) (by decide +kernel) c

/-- Both letters of a pair have the same upper case. -/
theorem upperChar_toLower (c : Char) : upperChar c.toLower = upperChar c :=
  apply_toLower (f := upperChar) (by decide +kernel) c

/-- A sigma sees a cased letter next to it, whether it is a capital or a small one. -/
theorem startsCased_map_toLower (cs : List Char) :
    startsCased (cs.map Char.toLower) = startsCased cs := by
  have hignored : isCaseIgnorable ∘ Char.toLower = isCaseIgnorable :=
    funext isCaseIgnorable_toLower
  unfold startsCased
  rw [List.dropWhile_map, hignored]
  cases cs.dropWhile isCaseIgnorable with
  | nil => rfl
  | cons c cs => exact isCased_toLower c

/-- Neither the characters nor those around them tell capital letters from small ones. -/
theorem lowerAfter_map_toLower (before cs : List Char) :
    lowerAfter (before.map Char.toLower) (cs.map Char.toLower) = lowerAfter before cs := by
  induction cs generalizing before with
  | nil => rfl
  | cons c cs ih =>
      have hsigma : c.toLower = 'Σ' ↔ c = 'Σ' := toLower_eq_iff (by decide) c
      have hsmall : smallSigma (before.map Char.toLower) (cs.map Char.toLower) =
          smallSigma before cs := by
        simp only [smallSigma, startsCased_map_toLower]
      rw [List.map_cons, lowerAfter, lowerAfter, ← List.map_cons, ih, hsmall, lowerChar_toLower]
      simp only [hsigma]

/-- **Lower case** does not depend on the case of ASCII letters. -/
theorem lowerChars_map_toLower (cs : List Char) :
    lowerChars (cs.map Char.toLower) = lowerChars cs :=
  lowerAfter_map_toLower [] cs

/-- **Upper case** does not depend on the case of ASCII letters. -/
theorem upperChars_map_toLower (cs : List Char) :
    upperChars (cs.map Char.toLower) = upperChars cs := by
  rw [upperChars, upperChars, List.flatMap_map]
  exact congrArg (cs.flatMap ·) (funext upperChar_toLower)

/-- A text with its capital letters of ASCII made small. -/
def asciiLower (s : String) : String :=
  String.ofList (s.toList.map Char.toLower)

/-- The lower case of a text is that of the text with small letters. -/
@[simp] theorem lower_asciiLower (s : String) : lower (asciiLower s) = lower s := by
  rw [lower, asciiLower, String.toList_ofList, lowerChars_map_toLower, lower]

end Catalogue.Text
