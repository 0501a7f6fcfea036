import Catalogue.Proofs.Text.Containment

/-!
# Capital sigmas at the ends of a text

The small form of a capital sigma is told by the next characters on both sides that are not
case-ignorable.  Where a text ends before such a character, the form is open: the text alone gives
one form, and a longer text may give the other (`IsOpenBetween`).  Nothing else keeps the lower case
of a text from occurring in the lower case of every text that contains it
(`lowerChars_within_iff`).
-/

namespace Catalogue.Text

/-- A text of case-ignorable characters only. -/
def Skipped (cs : List Char) : Prop :=
  ∀ c ∈ cs, isCaseIgnorable c = true

instance (cs : List Char) : Decidable (Skipped cs) :=
  inferInstanceAs (Decidable (∀ c ∈ cs, _))

/-- Skipped characters in front do not matter. -/
theorem startsCased_append_of_skipped {cs : List Char} (h : Skipped cs) (more : List Char) :
    startsCased (cs ++ more) = startsCased more := by
  induction cs with
  | nil => rfl
  | cons c cs ih =>
      rw [List.cons_append, startsCased_cons, if_pos (h c List.mem_cons_self)]
      exact ih fun d hd => h d (List.mem_cons_of_mem c hd)

/-- Behind a character that is not skipped nothing matters. -/
theorem startsCased_append_of_not_skipped {cs : List Char} (h : ¬ Skipped cs) (more : List Char) :
    startsCased (cs ++ more) = startsCased cs := by
  induction cs with
  | nil => exact absurd (by simp [Skipped]) h
  | cons c cs ih =>
      rw [List.cons_append, startsCased_cons, startsCased_cons]
      split
      · next hskipped =>
          refine ih fun hrest => h ?_
          simpa [Skipped, hskipped] using hrest
      · rfl

theorem startsCased_of_skipped {cs : List Char} (h : Skipped cs) : startsCased cs = false := by
  have hnil := startsCased_append_of_skipped h []
  rwa [List.append_nil] at hnil

/-- No capital sigma is skipped. -/
theorem not_skipped_of_sigma_mem {cs : List Char} (h : 'Σ' ∈ cs) : ¬ Skipped cs := by
  have hsigma : isCaseIgnorable 'Σ' = false := by decide +kernel
  intro hskipped
  simp [hskipped 'Σ' h] at hsigma

/-- The form of a capital sigma is open between a text in front of it, read in reverse, and a text
behind it: either the first text is skipped and no cased letter follows, or a cased letter precedes
and the second text is skipped. -/
def IsOpenBetween (before after : List Char) : Prop :=
  Skipped before ∧ startsCased after = false ∨ startsCased before = true ∧ Skipped after

instance (before after : List Char) : Decidable (IsOpenBetween before after) :=
  inferInstanceAs (Decidable (_ ∨ _))

/-- A text with a capital sigma whose form is open. -/
def HasOpenSigma (cs : List Char) : Prop :=
  ∃ before after, cs = before ++ 'Σ' :: after ∧ IsOpenBetween before.reverse after

/-- A form that is not open stays as it is in every longer text. -/
theorem smallSigma_append {before after : List Char} (h : ¬ IsOpenBetween before after)
    (earlier later : List Char) :
    smallSigma (before ++ earlier) (after ++ later) = smallSigma before after := by
  rw [IsOpenBetween, not_or, not_and, not_and] at h
  obtain ⟨hskipped, hcased⟩ := h
  unfold smallSigma
  by_cases hbefore : Skipped before
  · -- A cased letter follows, so the form is not the final one.
    have hfollows : startsCased after = true := by simpa using hskipped hbefore
    have hafter : ¬ Skipped after := fun hnone => by
      simp [startsCased_of_skipped hnone] at hfollows
    rw [startsCased_append_of_not_skipped hafter, hfollows]
    simp
  · rw [startsCased_append_of_not_skipped hbefore]
    cases hprecedes : startsCased before with
    | false => rfl
    | true => rw [startsCased_append_of_not_skipped (hcased hprecedes)]

/-- Without open sigmas the lower case of a text occurs wherever the text does. -/
theorem lowerChars_within_of_not_open {cs : List Char} (h : ¬ HasOpenSigma cs)
    (before after : List Char) : lowerChars cs <:+: lowerChars (before ++ cs ++ after) := by
  have hplace : lowerWithin before.reverse cs after = lowerChars cs := by
    rw [lowerChars, lowerAfter_eq_lowerWithin]
    refine lowerWithin_congr fun left right hsplit => ?_
    have hclosed : ¬ IsOpenBetween left.reverse right :=
      fun hopen => h ⟨left, right, hsplit, hopen⟩
    rw [smallSigma_append hclosed, List.append_nil, List.append_nil]
  exact hplace ▸ lowerWithin_within before cs after

/-- The lower case of a text with a capital sigma in it. -/
theorem lowerAfter_sigma (earlier before after : List Char) :
    lowerAfter earlier (before ++ 'Σ' :: after) =
      lowerWithin earlier before ('Σ' :: after) ++
        smallSigma (before.reverse ++ earlier) after ::
          lowerAfter ('Σ' :: (before.reverse ++ earlier)) after := by
  rw [lowerAfter_append, lowerAfter, if_pos rfl, List.singleton_append]

/-- A skipped text has no sigma, so its lower case does not depend on its place. -/
theorem lowerWithin_of_skipped {cs : List Char} (h : Skipped cs)
    (before before' after after' : List Char) :
    lowerWithin before cs after = lowerWithin before' cs after' := by
  refine lowerWithin_congr fun left right hsplit => ?_
  exact absurd h (not_skipped_of_sigma_mem (by simp [hsplit]))

/-- Behind a capital sigma nothing depends on what stands in front of it. -/
theorem lowerAfter_behind_sigma (before earlier cs : List Char) :
    lowerAfter ('Σ' :: (before ++ earlier)) cs = lowerAfter ('Σ' :: before) cs := by
  rw [lowerAfter_eq_lowerWithin, lowerAfter_eq_lowerWithin]
  refine lowerWithin_congr fun left right _ => ?_
  have hreached : ¬ Skipped (left.reverse ++ 'Σ' :: before) :=
    not_skipped_of_sigma_mem (by simp)
  have hlonger : left.reverse ++ 'Σ' :: (before ++ earlier) =
      (left.reverse ++ 'Σ' :: before) ++ earlier := by simp
  rw [smallSigma, hlonger, startsCased_append_of_not_skipped hreached, smallSigma]

/-- In front of a capital sigma nothing depends on what stands behind it. -/
theorem lowerWithin_before_sigma (before cs after later : List Char) :
    lowerWithin before cs ('Σ' :: (after ++ later)) = lowerWithin before cs ('Σ' :: after) := by
  refine lowerWithin_congr fun left right _ => ?_
  have hreached : ¬ Skipped (right ++ 'Σ' :: after) := not_skipped_of_sigma_mem (by simp)
  have hlonger : right ++ 'Σ' :: (after ++ later) = (right ++ 'Σ' :: after) ++ later := by simp
  rw [smallSigma, hlonger, startsCased_append_of_not_skipped hreached, smallSigma]

theorem startsCased_letter : startsCased ['A'] = true := by
  decide +kernel

/-- A letter in front of a text makes a sigma final that is open to the front. -/
theorem not_within_of_open_front {before after : List Char} (hbefore : Skipped before.reverse)
    (hafter : startsCased after = false) :
    ¬ lowerChars (before ++ 'Σ' :: after) <:+: lowerChars ('A' :: (before ++ 'Σ' :: after)) := by
  have hskipped : Skipped before := by simpa [Skipped] using hbefore
  have halone : smallSigma before.reverse after = 'σ' := by
    simp [smallSigma, startsCased_of_skipped hbefore]
  have hbehind : smallSigma (before.reverse ++ ['A']) after = 'ς' := by
    simp [smallSigma, startsCased_append_of_skipped hbefore, startsCased_letter, hafter]
  intro hwithin
  -- The longer text has one `σ` less.
  have hcount := hwithin.sublist.count_le 'σ'
  have hfirst : lowerChars ('A' :: (before ++ 'Σ' :: after)) =
      'a' :: lowerAfter ['A'] (before ++ 'Σ' :: after) := rfl
  rw [hfirst, lowerChars, lowerAfter_sigma, lowerAfter_sigma, List.append_nil, halone, hbehind,
    lowerAfter_behind_sigma, lowerWithin_of_skipped hskipped ['A'] [] _ ('Σ' :: after)] at hcount
  simp at hcount

/-- A letter behind a text takes the final form from a sigma that is open to the back. -/
theorem not_within_of_open_back {before after : List Char}
    (hbefore : startsCased before.reverse = true) (hafter : Skipped after) :
    ¬ lowerChars (before ++ 'Σ' :: after) <:+: lowerChars (before ++ 'Σ' :: after ++ ['A']) := by
  have halone : smallSigma before.reverse after = 'ς' := by
    simp [smallSigma, hbefore, startsCased_of_skipped hafter]
  have hbehind : smallSigma before.reverse (after ++ ['A']) = 'σ' := by
    simp [smallSigma, startsCased_append_of_skipped hafter, startsCased_letter]
  intro hwithin
  -- The longer text has one `ς` less.
  have hcount := hwithin.sublist.count_le 'ς'
  have hlast : ∀ earlier, lowerAfter earlier ['A'] = ['a'] := fun _ => rfl
  rw [List.append_assoc, List.cons_append, lowerChars, lowerChars, lowerAfter_sigma,
    lowerAfter_sigma, List.append_nil, halone, hbehind, lowerWithin_before_sigma,
    lowerAfter_append, hlast, lowerAfter_eq_lowerWithin _ after,
    lowerWithin_of_skipped hafter _ ('Σ' :: before.reverse) ['A'] []] at hcount
  simp at hcount

/-- A text with an open sigma is missed with a letter next to it. -/
theorem HasOpenSigma.not_within {cs : List Char} (h : HasOpenSigma cs) :
    ¬ lowerChars cs <:+: lowerChars ('A' :: cs) ∨
      ¬ lowerChars cs <:+: lowerChars (cs ++ ['A']) := by
  obtain ⟨before, after, rfl, ⟨hbefore, hafter⟩ | ⟨hbefore, hafter⟩⟩ := h
  · exact Or.inl (not_within_of_open_front hbefore hafter)
  · exact Or.inr (not_within_of_open_back hbefore hafter)

/-- **When lower case keeps parts.**  The lower case of a text occurs in the lower case of every
text that contains it exactly when no capital sigma of it is open. -/
theorem lowerChars_within_iff {cs : List Char} :
    (∀ before after, lowerChars cs <:+: lowerChars (before ++ cs ++ after)) ↔
      ¬ HasOpenSigma cs := by
  refine ⟨fun hall hopen => ?_, fun h => lowerChars_within_of_not_open h⟩
  rcases hopen.not_within with hfront | hback
  · exact hfront (by simpa using hall ['A'] [])
  · exact hback (by simpa using hall [] ['A'])

end Catalogue.Text
