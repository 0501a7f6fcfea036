import Catalogue.Proofs.Text.AsciiCase
import Catalogue.Proofs.Text.Containment

/-!
# Lower case and blanks

Lower case yields small forms, which it leaves as they are, and it keeps blanks and makes no new
ones (`mem_lowerWithin`).  So a trimmed text is still trimmed in lower case
(`IsTrimmed.lowerChars`), and a text without blanks occurs in the lower case of a text exactly when
it occurs in the lower case of the trimmed text (`within_lowerChars_trimChars_iff`).
-/

namespace Catalogue.Text

/-- Lower case moves nothing to the dotted capital `I` or to a blank. -/
theorem lowerRuns_isApart_blankCodes :
    (lowerRuns.all fun run =>
      ('İ'.toNat :: blankCodes).all fun n => run.image.isApart (.ofRange (n, n))) = true := by
  simp only [all_eq_rec]
  decide +kernel

/-- What lower case moves a character to is not the dotted capital `I` and no blank. -/
theorem isBlank_of_movedBy? {c d : Char} (h : movedBy? lowerRuns c = some d) :
    d ≠ 'İ' ∧ isBlank d = false := by
  obtain ⟨run, hrun, hlists, rfl⟩ := exists_lists_of_movedBy?_eq_some h
  have himage := hlists.image (lowerImages.nonneg hrun)
  have hnot : ∀ n ∈ 'İ'.toNat :: blankCodes, ((c.toNat : Int) + run.shift).toNat ≠ n := by
    rintro n hn rfl
    have hapart := List.all_eq_true.mp (List.all_eq_true.mp lowerRuns_isApart_blankCodes run hrun)
    exact himage.not_of_isApart (hapart _ hn) (CaseRun.lists_ofRange.mpr ⟨le_refl _, le_refl _⟩)
  by_cases hvalid : ((c.toNat : Int) + run.shift).toNat.isValidChar
  · have hcode : (Char.ofNat ((c.toNat : Int) + run.shift).toNat).toNat =
        ((c.toNat : Int) + run.shift).toNat := by
      rw [Char.toNat_ofNat, if_pos hvalid]
    refine ⟨fun hdotted => ?_, ?_⟩
    · exact hnot 'İ'.toNat List.mem_cons_self (by rw [← hcode, hdotted])
    · by_contra hblank
      have hlisted := toNat_mem_blankCodes (Bool.eq_true_of_not_eq_false hblank)
      exact hnot _ (List.mem_cons_of_mem _ hlisted) hcode.symm
  · rw [Char.ofNat, dif_neg hvalid]
    decide

/-- What lower case moves a character to is a small form. -/
theorem lowerChar_of_movedBy? {c d : Char} (h : movedBy? lowerRuns c = some d) :
    lowerChar d = [d] := by
  have hlower : d.toLower = d := by
    refine Char.toLower_eq_of_not_isUpper fun hupper => ?_
    have halpha : d.isAlpha = true := by simp [Char.isAlpha, hupper]
    have hk := lowerImages.toNat_mem h halpha
    obtain rfl : d = 'k' := Char.toNat_inj.mp (by simpa [lowerImages] using hk)
    exact absurd hupper (by decide)
  simp [lowerChar, hlower, (isBlank_of_movedBy? h).1, movedBy?_lowerRuns_eq_none h]

/-- The code points that mappings of special letters yield: the dot above, and both forms of the
small sigma. -/
def specialCodes : List Nat :=
  [0x307, 'ς'.toNat, 'σ'.toNat]

/-- Blanks and what the special letters become are small forms. -/
theorem lowerChar_of_mem_codes :
    ∀ n ∈ blankCodes ++ specialCodes, lowerChar (Char.ofNat n) = [Char.ofNat n] := by
  unfold lowerChar
  simp only [movedBy?_eq_find?, find?_eq_rec]
  decide +kernel

/-- **Lower case yields small forms**, and blanks from blanks only. -/
theorem mem_lowerChar {c d : Char} (h : d ∈ lowerChar c) :
    lowerChar d = [d] ∧ isBlank d = isBlank c := by
  by_cases hascii : isAscii c = true
  · rw [lowerChar_of_isAscii hascii, List.mem_singleton] at h
    exact h ▸ ⟨(lowerChar_toLower c).trans (lowerChar_of_isAscii hascii), isBlank_toLower c⟩
  by_cases hblank : isBlank c = true
  · have hlisted := toNat_mem_blankCodes hblank
    have hsmall := lowerChar_of_mem_codes c.toNat (List.mem_append_left _ hlisted)
    rw [Char.ofNat_toNat] at hsmall
    rw [hsmall, List.mem_singleton] at h
    subst h
    exact ⟨hsmall, rfl⟩
  rw [Bool.not_eq_true] at hascii hblank
  by_cases hdotted : c = 'İ'
  · have hpair : lowerChar 'İ' = ['i', Char.ofNat 0x307] := rfl
    rw [hdotted, hpair, List.mem_cons, List.mem_singleton] at h
    rw [hblank]
    rcases h with rfl | rfl
    · exact ⟨lowerChar_of_isAscii (by decide), by decide⟩
    · exact ⟨lowerChar_of_mem_codes 0x307 (by decide), by decide⟩
  · have hone : lowerChar c = [(movedBy? lowerRuns c).getD c] := by
      simp [lowerChar, hascii, hdotted]
    rw [hone, List.mem_singleton] at h
    cases hmoved : movedBy? lowerRuns c with
    | none =>
        rw [hmoved, Option.getD_none] at hone h
        subst h
        exact ⟨hone, rfl⟩
    | some e =>
        rw [hmoved, Option.getD_some] at h
        subst h
        exact ⟨lowerChar_of_movedBy? hmoved, (isBlank_of_movedBy? hmoved).2.trans hblank.symm⟩

/-- What the lower case of a text consists of: small forms, as blank as the characters that they are
from. -/
theorem mem_lowerWithin {before cs after : List Char} {d : Char}
    (h : d ∈ lowerWithin before cs after) :
    lowerChar d = [d] ∧ ∃ c ∈ cs, isBlank d = isBlank c := by
  induction cs generalizing before with
  | nil => simp [lowerWithin] at h
  | cons c cs ih =>
      rw [lowerWithin, List.mem_append] at h
      rcases h with hfirst | hrest
      · have hone : lowerChar d = [d] ∧ isBlank d = isBlank c := by
          split at hfirst
          · next hsigma =>
              rw [hsigma, List.mem_singleton.mp hfirst, smallSigma]
              split
              · exact ⟨lowerChar_of_mem_codes 'ς'.toNat (by decide), by decide⟩
              · exact ⟨lowerChar_of_mem_codes 'σ'.toNat (by decide), by decide⟩
          · exact mem_lowerChar hfirst
        exact ⟨hone.1, c, List.mem_cons_self, hone.2⟩
      · obtain ⟨hsmall, e, he, hblank⟩ := ih hrest
        exact ⟨hsmall, e, List.mem_cons_of_mem c he, hblank⟩

/-- Small forms are left as they are. -/
theorem lowerWithin_eq_self {before cs after : List Char} (h : ∀ c ∈ cs, lowerChar c = [c]) :
    lowerWithin before cs after = cs := by
  induction cs generalizing before with
  | nil => rfl
  | cons c cs ih =>
      have hc := h c List.mem_cons_self
      have hsigma : c ≠ 'Σ' := by
        rintro rfl
        have hmoved : lowerChar 'Σ' = ['σ'] := by cbv
        simp [hmoved] at hc
      rw [lowerWithin, if_neg hsigma, hc, ih fun d hd => h d (List.mem_cons_of_mem c hd)]
      rfl

/-- Lower case of lower case changes nothing. -/
@[simp] theorem lower_lower (s : String) : lower (lower s) = lower s := by
  have hsmall : lowerChars (lowerChars s.toList) = lowerChars s.toList := by
    rw [lowerChars, lowerAfter_eq_lowerWithin]
    refine lowerWithin_eq_self fun d hd => ?_
    rw [lowerChars, lowerAfter_eq_lowerWithin] at hd
    exact (mem_lowerWithin hd).1
  rw [lower, lower, String.toList_ofList, hsmall]

/-- Trimming takes blanks from both ends and nothing else. -/
theorem exists_trimChars (cs : List Char) :
    ∃ front back, cs = front ++ trimChars cs ++ back ∧ (∀ c ∈ front, isBlank c = true) ∧
      ∀ c ∈ back, isBlank c = true := by
  refine ⟨cs.takeWhile isBlank, (cs.dropWhile isBlank).rtakeWhile isBlank, ?_,
    fun c hc => List.mem_takeWhile_imp hc, fun c hc => List.mem_rtakeWhile_imp hc⟩
  have hsplit := List.rdropWhile_append_rtakeWhile (p := isBlank) (l := cs.dropWhile isBlank)
  rw [List.append_assoc, trimChars, dropRightWhile, ← List.rdropWhile, hsplit,
    List.takeWhile_append_dropWhile]

/-- Trimming keeps characters of the text only. -/
theorem mem_of_mem_trim {s : String} {c : Char} (h : c ∈ (trim s).toList) : c ∈ s.toList := by
  obtain ⟨front, back, hsplit, -, -⟩ := exists_trimChars s.toList
  rw [trim, String.toList_ofList] at h
  rw [hsplit]
  exact List.mem_append_left back (List.mem_append_right front h)

/-- Nothing is left of blanks, and of no other text. -/
theorem trim_eq_empty_iff {s : String} : trim s = "" ↔ isBlankText s = true := by
  rw [trim, String.ofList_eq_empty_iff, isBlankText, List.all_eq_true]
  constructor
  · intro hnone
    obtain ⟨front, back, hsplit, hfront, hback⟩ := exists_trimChars s.toList
    rw [hnone, List.append_nil] at hsplit
    intro c hc
    rw [hsplit, List.mem_append] at hc
    exact hc.elim (hfront c) (hback c)
  · intro hblank
    have hnone : s.toList.dropWhile isBlank = [] := List.dropWhile_eq_nil_iff.mpr hblank
    rw [trimChars, hnone]
    rfl

/-- A text that neither starts nor ends with a blank. -/
structure IsTrimmed (cs : List Char) : Prop where
  head : ∀ c, cs.head? = some c → isBlank c = false
  last : ∀ c, cs.getLast? = some c → isBlank c = false

theorem isTrimmed_of_blankless {cs : List Char} (h : ∀ c ∈ cs, isBlank c = false) :
    IsTrimmed cs where
  head c hc := h c (List.mem_of_head? hc)
  last c hc := h c (List.mem_of_getLast? hc)

/-- A trimmed text is still trimmed with a character in front that is no blank. -/
theorem IsTrimmed.cons {cs : List Char} {c : Char} (h : IsTrimmed cs) (hc : isBlank c = false) :
    IsTrimmed (c :: cs) where
  head d hd := by
    obtain rfl := Option.some.inj hd
    exact hc
  last d hd := by
    cases cs with
    | nil =>
        obtain rfl := Option.some.inj hd
        exact hc
    | cons e cs => exact h.last d (by rwa [List.getLast?_cons_cons] at hd)

/-- A trimmed text is still trimmed with a character behind it that is no blank. -/
theorem IsTrimmed.concat {cs : List Char} {c : Char} (h : IsTrimmed cs) (hc : isBlank c = false) :
    IsTrimmed (cs ++ [c]) where
  head d hd := by
    cases cs with
    | nil =>
        obtain rfl := Option.some.inj hd
        exact hc
    | cons e cs => exact h.head d hd
  last d hd := by
    rw [List.getLast?_concat, Option.some.injEq] at hd
    exact hd ▸ hc

theorem isTrimmed_trimChars (cs : List Char) : IsTrimmed (trimChars cs) where
  head c hc := by
    obtain ⟨rest, hrest⟩ := List.head?_eq_some_iff.mp hc
    obtain ⟨back, hback⟩ : trimChars cs <+: cs.dropWhile isBlank := List.rdropWhile_prefix isBlank _
    have hfirst := List.head?_dropWhile_not isBlank cs
    rw [← hback, hrest] at hfirst
    exact hfirst
  last c hc := by
    have hne : trimChars cs ≠ [] := by
      rintro hnil
      simp [hnil] at hc
    have hlast := List.rdropWhile_last_not isBlank (cs.dropWhile isBlank) hne
    rw [List.getLast?_eq_some_getLast hne, Option.some.injEq] at hc
    rw [← hc]
    exact Bool.eq_false_iff.mpr hlast

/-- A trimmed text is left as it is. -/
theorem IsTrimmed.trimChars_eq {cs : List Char} (h : IsTrimmed cs) : trimChars cs = cs := by
  have hfront : cs.dropWhile isBlank = cs := by
    cases cs with
    | nil => rfl
    | cons c cs => exact List.dropWhile_cons_of_neg (by simp [h.head c rfl])
  rw [trimChars, hfront]
  rcases List.eq_nil_or_concat' cs with rfl | ⟨init, c, rfl⟩
  · rfl
  · exact List.rdropWhile_concat_neg isBlank init c (by simp [h.last c (by simp)])

/-- The trimmed texts are those that trimming leaves as they are. -/
theorem isTrimmed_iff {cs : List Char} : IsTrimmed cs ↔ trimChars cs = cs :=
  ⟨IsTrimmed.trimChars_eq, fun h => h ▸ isTrimmed_trimChars cs⟩

instance (cs : List Char) : Decidable (IsTrimmed cs) :=
  decidable_of_iff _ isTrimmed_iff.symm

/-- Blanks around a text are trimmed with its own. -/
theorem trim_append {front back : String} (hfront : isBlankText front = true)
    (hback : isBlankText back = true) (s : String) : trim (front ++ s ++ back) = trim s := by
  rw [isBlankText, List.all_eq_true] at hfront hback
  have hnone : back.toList.dropWhile isBlank = [] := List.dropWhile_eq_nil_iff.mpr hback
  simp only [trim, trimChars, dropRightWhile, String.toList_append, List.append_assoc,
    List.dropWhile_append_of_pos hfront]
  rw [List.dropWhile_append, hnone]
  split
  · next hblank => rw [List.isEmpty_iff.mp hblank]
  · rw [List.reverse_append, List.dropWhile_append_of_pos (by simpa using hback)]

@[simp] theorem trim_trim (s : String) : trim (trim s) = trim s := by
  rw [trim, trim, String.toList_ofList, (isTrimmed_trimChars _).trimChars_eq]

/-- A text that starts with blanks starts with a barrier. -/
theorem startsBarred_of_blank {cs : List Char} (h : ∀ c ∈ cs, isBlank c = true) :
    StartsBarred cs := by
  cases cs with
  | nil => trivial
  | cons c cs => exact isBarrier_of_isBlank (h c List.mem_cons_self)

/-- The lower case of a text is that of the trimmed text between blanks. -/
theorem exists_lowerChars_trimChars (cs : List Char) :
    ∃ front back, lowerChars cs = front ++ lowerChars (trimChars cs) ++ back ∧
      (∀ c ∈ front, isBlank c = true) ∧ ∀ c ∈ back, isBlank c = true := by
  obtain ⟨front, back, hsplit, hfront, hback⟩ := exists_trimChars cs
  have hbefore : StartsBarred front.reverse :=
    startsBarred_of_blank fun c hc => hfront c (List.mem_reverse.mp hc)
  have hplace := lowerWithin_between (trimChars cs) hbefore (startsBarred_of_blank hback)
  refine ⟨lowerWithin [] front (trimChars cs ++ back),
    lowerWithin ((trimChars cs).reverse ++ front.reverse) back [], ?_, fun d hd => ?_,
    fun d hd => ?_⟩
  · conv_lhs => rw [hsplit]
    rw [lowerChars, List.append_assoc front, lowerAfter_append, lowerAfter_append, List.append_nil,
      hplace, lowerAfter_eq_lowerWithin, List.append_assoc]
  · obtain ⟨-, c, hc, hblank⟩ := mem_lowerWithin hd
    exact hblank.trans (hfront c hc)
  · obtain ⟨-, c, hc, hblank⟩ := mem_lowerWithin hd
    exact hblank.trans (hback c hc)

/-- The lower case of a trimmed text occurs in the lower case of the text. -/
theorem lower_trim_within (s : String) : (lower (trim s)).toList <:+: (lower s).toList := by
  obtain ⟨front, back, hsplit, -, -⟩ := exists_lowerChars_trimChars s.toList
  refine ⟨front, back, ?_⟩
  simp only [lower, trim, String.toList_ofList, hsplit]

/-- The lower case of a trimmed text is trimmed. -/
theorem IsTrimmed.lowerChars {cs : List Char} (h : IsTrimmed cs) : IsTrimmed (lowerChars cs) where
  head d hd := by
    cases cs with
    | nil => simp [Text.lowerChars, lowerAfter] at hd
    | cons c cs =>
        have hone : lowerWithin [] [c] cs ≠ [] := by simp [lowerWithin_eq_nil_iff]
        have hsplit : Text.lowerChars (c :: cs) = lowerWithin [] [c] cs ++ lowerAfter [c] cs :=
          lowerAfter_append [] [c] cs
        rw [hsplit, List.head?_append_of_ne_nil _ hone] at hd
        obtain ⟨-, e, he, hblank⟩ := mem_lowerWithin (List.mem_of_head? hd)
        rw [List.mem_singleton.mp he] at hblank
        exact hblank.trans (h.head c rfl)
  last d hd := by
    rcases List.eq_nil_or_concat' cs with rfl | ⟨init, c, rfl⟩
    · simp [Text.lowerChars, lowerAfter] at hd
    · have hone : lowerWithin init.reverse [c] [] ≠ [] := by simp [lowerWithin_eq_nil_iff]
      rw [Text.lowerChars, lowerAfter_append, lowerAfter_eq_lowerWithin, List.append_nil,
        List.getLast?_append_of_ne_nil _ hone] at hd
      obtain ⟨-, e, he, hblank⟩ := mem_lowerWithin (List.mem_of_getLast? hd)
      rw [List.mem_singleton.mp he] at hblank
      exact hblank.trans (h.last c (by simp))

/-- What has no blank does not start in a blank front. -/
theorem infix_blank_append {needle front cs : List Char} (hne : needle ≠ [])
    (hneedle : ∀ c ∈ needle, isBlank c = false) (hfront : ∀ c ∈ front, isBlank c = true)
    (h : needle <:+: front ++ cs) : needle <:+: cs := by
  induction front with
  | nil => exact h
  | cons c front ih =>
      rcases List.infix_cons_iff.mp h with hstart | hrest
      · obtain ⟨d, needle, rfl⟩ := List.exists_cons_of_ne_nil hne
        obtain ⟨rfl, -⟩ := List.cons_prefix_cons.mp hstart
        have hblank := hfront d List.mem_cons_self
        simp [hneedle d List.mem_cons_self] at hblank
      · exact ih (fun d hd => hfront d (List.mem_cons_of_mem c hd)) hrest

/-- What has no blank occurs between blanks exactly when it occurs without them. -/
theorem infix_between_blanks_iff {needle front cs back : List Char} (hne : needle ≠ [])
    (hneedle : ∀ c ∈ needle, isBlank c = false) (hfront : ∀ c ∈ front, isBlank c = true)
    (hback : ∀ c ∈ back, isBlank c = true) :
    needle <:+: front ++ cs ++ back ↔ needle <:+: cs := by
  refine ⟨fun h => ?_, fun h => h.trans ⟨front, back, rfl⟩⟩
  rw [List.append_assoc] at h
  have hrest := infix_blank_append hne hneedle hfront h
  rw [← List.reverse_infix, List.reverse_append] at hrest
  rw [← List.reverse_infix]
  exact infix_blank_append (by simpa using hne) (by simpa using hneedle) (by simpa using hback)
    hrest

/-- **Looking for what has no blank.**  The lower case of a text without blanks occurs in the lower
case of another text exactly when it occurs in that of the trimmed text. -/
theorem within_lowerChars_trimChars_iff {needle cs : List Char} (hne : needle ≠ [])
    (hneedle : ∀ c ∈ needle, isBlank c = false) :
    lowerChars needle <:+: lowerChars cs ↔ lowerChars needle <:+: lowerChars (trimChars cs) := by
  obtain ⟨front, back, hsplit, hfront, hback⟩ := exists_lowerChars_trimChars cs
  rw [hsplit]
  refine infix_between_blanks_iff (mt lowerChars_eq_nil_iff.mp hne) (fun d hd => ?_) hfront hback
  rw [Text.lowerChars, lowerAfter_eq_lowerWithin] at hd
  obtain ⟨-, c, hc, hblank⟩ := mem_lowerWithin hd
  exact hblank.trans (hneedle c hc)

end Catalogue.Text
