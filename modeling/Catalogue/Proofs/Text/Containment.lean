import Catalogue.Proofs.Text.LetterCase
import Catalogue.Text.Split

/-!
# Parts of texts and their lower case

The lower case of a part of a text need not occur in the lower case of the text: how a capital sigma
is written depends on the letters around it, and nothing else does (`lowerWithin_congr`).  It does
occur where the part stands between barriers, characters beyond which no letter matters
(`lowerChars_between`).  Blanks are barriers.
-/

namespace Catalogue.Text

/-- A text occurs in another one if it is a part of it without gaps. -/
theorem occursInChars_iff {needle cs : List Char} :
    occursInChars needle cs = true ↔ needle <:+: cs := by
  induction cs with
  | nil => simp [occursInChars, List.infix_nil]
  | cons c cs ih =>
      rw [occursInChars, Bool.or_eq_true, ih, List.isPrefixOf_iff_prefix, List.infix_cons_iff]

theorem occursIn_iff {needle text : String} :
    occursIn needle text = true ↔ needle.toList <:+: text.toList :=
  occursInChars_iff

/-- A character that has no case and is not skipped either. -/
def IsBarrier (c : Char) : Prop :=
  isCased c = false ∧ isCaseIgnorable c = false

instance (c : Char) : Decidable (IsBarrier c) :=
  inferInstanceAs (Decidable (_ ∧ _))

/-- A text that is empty or starts with a barrier. -/
def StartsBarred : List Char → Prop
  | [] => True
  | c :: _ => IsBarrier c

/-- The code points of the blank characters. -/
def blankCodes : List Nat :=
  List.range' 0x9 5 ++ List.range' 0x1C 5 ++ [0x85, 0xA0, 0x1680] ++ List.range' 0x2000 11 ++
    [0x2028, 0x2029, 0x202F, 0x205F, 0x3000]

/-- All blank characters are listed. -/
theorem toNat_mem_blankCodes {c : Char} (h : isBlank c = true) : c.toNat ∈ blankCodes := by
  simp only [isBlank, Bool.or_eq_true, Bool.and_eq_true, decide_eq_true_eq, beq_iff_eq] at h
  simp only [blankCodes, List.mem_append, List.mem_range'_1, List.mem_cons, List.not_mem_nil,
    or_false]
  omega

/-- No blank character has a case or is case-ignorable. -/
theorem blankCodes_unlisted :
    ∀ n ∈ blankCodes, inRanges casedRanges n = false ∧ inRanges caseIgnorableRanges n = false := by
  simp only [inRanges_eq_any, any_eq_rec]
  decide +kernel

/-- Blanks are barriers. -/
theorem isBarrier_of_isBlank {c : Char} (h : isBlank c = true) : IsBarrier c := by
  obtain ⟨huncased, hkept⟩ := blankCodes_unlisted c.toNat (toNat_mem_blankCodes h)
  refine ⟨?_, hkept⟩
  unfold isCased
  split
  · by_contra halpha
    simp [isBlank_eq_false_of_isAlpha (Bool.eq_true_of_not_eq_false halpha)] at h
  · exact huncased

/-- A character that is skipped leaves it to those behind it whether a cased letter comes first. -/
theorem startsCased_cons (c : Char) (cs : List Char) :
    startsCased (c :: cs) = if isCaseIgnorable c then startsCased cs else isCased c := by
  cases hskipped : isCaseIgnorable c <;>
    simp [startsCased, hskipped]

/-- What follows a barrier does not matter. -/
theorem startsCased_append (cs : List Char) {after : List Char} (h : StartsBarred after) :
    startsCased (cs ++ after) = startsCased cs := by
  induction cs with
  | nil =>
      cases after with
      | nil => rfl
      | cons c after =>
          rw [List.nil_append, startsCased_cons, h.1, h.2]
          rfl
  | cons c cs ih => rw [List.cons_append, startsCased_cons, startsCased_cons, ih]

/-- The lower case of a part of a text in its place: behind the characters of the first list read in
reverse, and in front of those of the last list. -/
def lowerWithin (before : List Char) : (part after : List Char) → List Char
  | [], _ => []
  | c :: rest, after =>
    (if c = 'Σ' then [smallSigma before (rest ++ after)] else lowerChar c) ++
      lowerWithin (c :: before) rest after

/-- The lower case of a text is that of its front in its place, and then that of the rest. -/
theorem lowerAfter_append (before cs after : List Char) :
    lowerAfter before (cs ++ after) =
      lowerWithin before cs after ++ lowerAfter (cs.reverse ++ before) after := by
  induction cs generalizing before with
  | nil => rfl
  | cons c cs ih =>
      rw [List.cons_append, lowerAfter, lowerWithin, ih, List.append_assoc, List.reverse_cons,
        List.append_assoc, List.singleton_append]

/-- The lower case of a text that nothing follows. -/
theorem lowerAfter_eq_lowerWithin (before cs : List Char) :
    lowerAfter before cs = lowerWithin before cs [] := by
  simpa [lowerAfter] using lowerAfter_append before cs []

/-- Only the capital sigmas of a part depend on its place. -/
theorem lowerWithin_congr {before before' cs after after' : List Char}
    (h : ∀ left right, cs = left ++ 'Σ' :: right →
      smallSigma (left.reverse ++ before) (right ++ after) =
        smallSigma (left.reverse ++ before') (right ++ after')) :
    lowerWithin before cs after = lowerWithin before' cs after' := by
  induction cs generalizing before before' with
  | nil => rfl
  | cons c cs ih =>
      have hrest : lowerWithin (c :: before) cs after = lowerWithin (c :: before') cs after' := by
        refine ih fun left right hsplit => ?_
        simpa using h (c :: left) right (by rw [hsplit, List.cons_append])
      rw [lowerWithin, lowerWithin, hrest]
      split
      · next hsigma =>
          have hfirst : smallSigma before (cs ++ after) = smallSigma before' (cs ++ after') :=
            h [] cs (by rw [hsigma, List.nil_append])
          rw [hfirst]
      · rfl

/-- The lower case of a part in its place occurs in the lower case of the text. -/
theorem lowerWithin_within (before cs after : List Char) :
    lowerWithin before.reverse cs after <:+: lowerChars (before ++ cs ++ after) := by
  refine ⟨lowerWithin [] before (cs ++ after), lowerAfter (cs.reverse ++ before.reverse) after, ?_⟩
  rw [lowerChars, List.append_assoc before, lowerAfter_append, lowerAfter_append, List.append_nil,
    List.append_assoc]

/-- The lower case of a part does not depend on its place between barriers. -/
theorem lowerWithin_between (cs : List Char) {before after : List Char}
    (hbefore : StartsBarred before) (hafter : StartsBarred after) :
    lowerWithin before cs after = lowerChars cs := by
  rw [lowerChars, lowerAfter_eq_lowerWithin]
  refine lowerWithin_congr fun left right _ => ?_
  rw [smallSigma, startsCased_append _ hbefore, startsCased_append _ hafter, smallSigma,
    List.append_nil, List.append_nil]

/-- **The lower case of a part between barriers** occurs in the lower case of the text. -/
theorem lowerChars_between (cs : List Char) {before after : List Char}
    (hbefore : StartsBarred before.reverse) (hafter : StartsBarred after) :
    lowerChars cs <:+: lowerChars (before ++ cs ++ after) :=
  lowerWithin_between cs hbefore hafter ▸ lowerWithin_within before cs after

/-- Lower case leaves no character out. -/
theorem lowerWithin_eq_nil_iff {before cs after : List Char} :
    lowerWithin before cs after = [] ↔ cs = [] := by
  cases cs with
  | nil => simp [lowerWithin]
  | cons c cs =>
      have hone : lowerChar c ≠ [] := by
        unfold lowerChar
        split
        · simp
        · split <;> simp
      simp only [lowerWithin, List.append_eq_nil_iff, reduceCtorEq, iff_false, not_and]
      intro hnone
      split at hnone
      · simp at hnone
      · exact absurd hnone hone

theorem lowerChars_eq_nil_iff {cs : List Char} : lowerChars cs = [] ↔ cs = [] := by
  rw [lowerChars, lowerAfter_eq_lowerWithin, lowerWithin_eq_nil_iff]

end Catalogue.Text
