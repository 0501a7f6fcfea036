import Mathlib
import Catalogue.Collation
import Catalogue.Proofs.Text.Exchange
import Catalogue.Proofs.Text.OpenSigma

/-!
# Which texts tie in collation

Two texts tie when they have the same collation key.  The third component of a key is the text with
upper and lower case exchanged, and exchanging case is not one-to-one: `ß` and `ss` both become
`SS`.  So there are ties between different texts.  They come from letters that are spelled with
others: spelling them out keeps the key (`CollationKey.ofText_eq_of_spellOut_eq`), and texts that
tie are the same when they are spelled out, up to the difference between an iota and an iota
subscript (`CollationKey.spellOut_eq_of_ofText_eq`).

Each component is traced to the letters of the text.  The base letters are found letter by letter,
since canonical order moves marks only.  Exchanging case looks around at a capital sigma alone, and
what it yields is exchanged back to read the spelling (`Text.flatMap_swapBackChar_swapChars`).
-/

namespace Catalogue

namespace Text

/-- Putting a mark in its place leaves the characters that are no marks as they are. -/
theorem filter_insertMark (c : Char) (cs : List Char) :
    (insertMark c cs).filter (combiningClass · = 0) =
      (c :: cs).filter (combiningClass · = 0) := by
  induction cs with
  | nil => rfl
  | cons d cs ih =>
      rw [insertMark]
      split
      · next h =>
          have hc : ¬ combiningClass c = 0 := by omega
          have hd : ¬ combiningClass d = 0 := by omega
          rw [List.filter_cons_of_neg (by simpa using hd), ih,
            List.filter_cons_of_neg (by simpa using hc),
            List.filter_cons_of_neg (by simpa using hc),
            List.filter_cons_of_neg (by simpa using hd)]
      · rfl

/-- Canonical order moves marks only. -/
theorem filter_canonicalOrder (cs : List Char) :
    (canonicalOrder cs).filter (combiningClass · = 0) = cs.filter (combiningClass · = 0) := by
  induction cs with
  | nil => rfl
  | cons c cs ih => rw [canonicalOrder, filter_insertMark, List.filter_cons, List.filter_cons, ih]

/-- The case folding of the base letters of a character. -/
def baseChar (c : Char) : List Char :=
  foldChars ((decompose c).filter (combiningClass · = 0))

/-- **Base letters.**  The first component of a collation key is put together letter by letter. -/
theorem foldChars_baseChars (cs : List Char) :
    foldChars (baseChars cs) = cs.flatMap baseChar := by
  rw [baseChars, compatibilityForm, filter_canonicalOrder, List.filter_flatMap, foldChars,
    List.flatMap_assoc]
  rfl

/-- The small iota below a vowel, as a mark of its own. -/
def iotaSubscript : Char :=
  Char.ofNat 0x345

/-- The irregular letters that are not spelled with others. -/
def unspelledChars : List Char :=
  ['ı', 'ẞ', iotaSubscript]

/-- The letters that spellings consist of. -/
def IsSpelled (c : Char) : Prop :=
  isIrregular c = false ∨ c ∈ unspelledChars

instance (c : Char) : Decidable (IsSpelled c) :=
  inferInstanceAs (Decidable (_ ∨ _))

/-- What a spelling has in common with the letter: its case folding, its base letters, its case
exchanged, and what a capital sigma sees of it from both sides. -/
structure IsSpelling (c : Char) (cs : List Char) : Prop where
  folded : foldChars cs = foldChar c
  base : cs.flatMap baseChar = baseChar c
  swapped : cs.flatMap swapChar = swapChar c
  cased : startsCased [c] = true
  front : startsCased cs = true
  back : startsCased cs.reverse = true
  ne_sigma : c ≠ 'Σ'
  letters : ∀ d ∈ cs, d ≠ 'Σ' ∧ IsSpelled d

/-- The test for spellings. -/
def isSpelling (c : Char) (cs : List Char) : Bool :=
  foldChars cs = foldChar c && cs.flatMap baseChar = baseChar c &&
    cs.flatMap swapChar = swapChar c && startsCased [c] && startsCased cs &&
    startsCased cs.reverse && c ≠ 'Σ' && cs.all fun d => d ≠ 'Σ' && IsSpelled d

theorem isSpelling_iff {c : Char} {cs : List Char} : isSpelling c cs = true ↔ IsSpelling c cs := by
  simp only [isSpelling, Bool.and_eq_true, decide_eq_true_eq, List.all_eq_true, and_assoc]
  constructor
  · rintro ⟨folded, base, swapped, cased, front, back, ne_sigma, letters⟩
    exact ⟨folded, base, swapped, cased, front, back, ne_sigma, letters⟩
  · rintro ⟨folded, base, swapped, cased, front, back, ne_sigma, letters⟩
    exact ⟨folded, base, swapped, cased, front, back, ne_sigma, letters⟩

/-- A table of letters that are spelled with others.  All irregular letters but the unspelled ones
are listed. -/
structure SpellingTable where
  entries : List (Nat × List Nat)
  sound : (entries.all fun entry =>
    isSpelling (Char.ofNat entry.1) (entry.2.map Char.ofNat)) = true
  complete : ∀ range ∈ irregularRanges, ∀ i < range.2 + 1 - range.1,
    (entries.lookup (range.1 + i)).isSome = true ∨ Char.ofNat (range.1 + i) ∈ unspelledChars

/-- The letters that are spelled with others, and how. -/
def spellingEntries : List (Nat × List Nat) := [
  (0xB5, [0x3BC]), (0xDF, [0x73, 0x73]), (0x130, [0x49, 0x307]), (0x149, [0x2BC, 0x6E]),
  (0x17F, [0x73]), (0x1F0, [0x6A, 0x30C]), (0x390, [0x3B9, 0x308, 0x301]),
  (0x3B0, [0x3C5, 0x308, 0x301]), (0x3C2, [0x3C3]), (0x3D0, [0x3B2]), (0x3D1, [0x3B8]),
  (0x3D5, [0x3C6]), (0x3D6, [0x3C0]), (0x3F0, [0x3BA]), (0x3F1, [0x3C1]), (0x3F4, [0x398]),
  (0x3F5, [0x3B5]), (0x587, [0x565, 0x582]), (0x1C80, [0x432]), (0x1C81, [0x434]),
  (0x1C82, [0x43E]), (0x1C83, [0x441]), (0x1C84, [0x442]), (0x1C85, [0x442]), (0x1C86, [0x44A]),
  (0x1C87, [0x463]), (0x1C88, [0xA64B]), (0x1E96, [0x68, 0x331]), (0x1E97, [0x74, 0x308]),
  (0x1E98, [0x77, 0x30A]), (0x1E99, [0x79, 0x30A]), (0x1E9A, [0x61, 0x2BE]), (0x1E9B, [0x1E61]),
  (0x1F50, [0x3C5, 0x313]), (0x1F52, [0x3C5, 0x313, 0x300]), (0x1F54, [0x3C5, 0x313, 0x301]),
  (0x1F56, [0x3C5, 0x313, 0x342]), (0x1F80, [0x1F00, 0x345]), (0x1F81, [0x1F01, 0x345]),
  (0x1F82, [0x1F02, 0x345]), (0x1F83, [0x1F03, 0x345]), (0x1F84, [0x1F04, 0x345]),
  (0x1F85, [0x1F05, 0x345]), (0x1F86, [0x1F06, 0x345]), (0x1F87, [0x1F07, 0x345]),
  (0x1F90, [0x1F20, 0x345]), (0x1F91, [0x1F21, 0x345]), (0x1F92, [0x1F22, 0x345]),
  (0x1F93, [0x1F23, 0x345]), (0x1F94, [0x1F24, 0x345]), (0x1F95, [0x1F25, 0x345]),
  (0x1F96, [0x1F26, 0x345]), (0x1F97, [0x1F27, 0x345]), (0x1FA0, [0x1F60, 0x345]),
  (0x1FA1, [0x1F61, 0x345]), (0x1FA2, [0x1F62, 0x345]), (0x1FA3, [0x1F63, 0x345]),
  (0x1FA4, [0x1F64, 0x345]), (0x1FA5, [0x1F65, 0x345]), (0x1FA6, [0x1F66, 0x345]),
  (0x1FA7, [0x1F67, 0x345]), (0x1FB2, [0x1F70, 0x345]), (0x1FB3, [0x3B1, 0x345]),
  (0x1FB4, [0x3AC, 0x345]), (0x1FB6, [0x3B1, 0x342]), (0x1FB7, [0x3B1, 0x342, 0x345]),
  (0x1FBE, [0x3B9]), (0x1FC2, [0x1F74, 0x345]), (0x1FC3, [0x3B7, 0x345]),
  (0x1FC4, [0x3AE, 0x345]), (0x1FC6, [0x3B7, 0x342]), (0x1FC7, [0x3B7, 0x342, 0x345]),
  (0x1FD2, [0x3B9, 0x308, 0x300]),
  (0x1FD3, [0x3B9, 0x308, 0x301]), (0x1FD6, [0x3B9, 0x342]), (0x1FD7, [0x3B9, 0x308, 0x342]),
  (0x1FE2, [0x3C5, 0x308, 0x300]), (0x1FE3, [0x3C5, 0x308, 0x301]), (0x1FE4, [0x3C1, 0x313]),
  (0x1FE6, [0x3C5, 0x342]), (0x1FE7, [0x3C5, 0x308, 0x342]), (0x1FF2, [0x1F7C, 0x345]),
  (0x1FF3, [0x3C9, 0x345]), (0x1FF4, [0x3CE, 0x345]), (0x1FF6, [0x3C9, 0x342]),
  (0x1FF7, [0x3C9, 0x342, 0x345]), (0x2126, [0x3A9]), (0x212A, [0x4B]), (0x212B, [0xC5]),
  (0xFB00, [0x66, 0x66]), (0xFB01, [0x66, 0x69]), (0xFB02, [0x66, 0x6C]),
  (0xFB03, [0x66, 0x66, 0x69]), (0xFB04, [0x66, 0x66, 0x6C]), (0xFB05, [0x73, 0x74]),
  (0xFB06, [0x73, 0x74]), (0xFB13, [0x574, 0x576]), (0xFB14, [0x574, 0x565]),
  (0xFB15, [0x574, 0x56B]), (0xFB16, [0x57E, 0x576]), (0xFB17, [0x574, 0x56D])]

/-- Each letter of the table has what its spelling must have. -/
theorem sound_spellingEntries :
    (spellingEntries.all fun entry =>
      isSpelling (Char.ofNat entry.1) (entry.2.map Char.ofNat)) = true := by
  unfold isSpelling baseChar decompose foldChars foldChar swapChar lowerChar upperChar expandedBy?
    startsCased isCaseIgnorable isCased isTitlecase IsSpelled isIrregular
  simp only [inRanges_eq_any, movedBy?_eq_find?, lookup_eq_find?, CaseRun.lists, any_eq_rec,
    find?_eq_rec]
  decide +kernel

/-- No irregular letter is missing from the table. -/
theorem complete_spellingEntries :
    ∀ range ∈ irregularRanges, ∀ i < range.2 + 1 - range.1,
      (spellingEntries.lookup (range.1 + i)).isSome = true ∨
        Char.ofNat (range.1 + i) ∈ unspelledChars := by
  decide +kernel

/-- The table of spellings. -/
def spellings : SpellingTable where
  entries := spellingEntries
  sound := sound_spellingEntries
  complete := complete_spellingEntries

/-- A letter spelled out. -/
def spellChar (c : Char) : List Char :=
  (expandedBy? spellings.entries c).getD [c]

/-- The letters of a text spelled out. -/
def spellOut (cs : List Char) : List Char :=
  cs.flatMap spellChar

/-- A letter without a spelling may occur in one. -/
theorem isSpelled_of_lookup_eq_none {c : Char} (h : spellings.entries.lookup c.toNat = none) :
    IsSpelled c := by
  by_cases hregular : isIrregular c = false
  · exact Or.inl hregular
  · rw [Bool.not_eq_false, isIrregular, inRanges_eq_true_iff] at hregular
    obtain ⟨range, hrange, hfirst, hlast⟩ := hregular
    have hlisted := spellings.complete range hrange (c.toNat - range.1) (by omega)
    rw [Nat.add_sub_cancel' hfirst, h, Char.ofNat_toNat] at hlisted
    exact Or.inr (hlisted.resolve_left (by simp))

/-- A letter stands for itself or is listed with its spelling. -/
theorem spellChar_cases (c : Char) :
    spellChar c = [c] ∧ IsSpelled c ∨ IsSpelling c (spellChar c) := by
  cases hfound : spellings.entries.lookup c.toNat with
  | none =>
      have hself : spellChar c = [c] := by simp [spellChar, expandedBy?, hfound]
      exact Or.inl ⟨hself, isSpelled_of_lookup_eq_none hfound⟩
  | some ns =>
      obtain ⟨earlier, later, htable, -⟩ := List.lookup_eq_some_iff.mp hfound
      have hentry : (c.toNat, ns) ∈ spellings.entries := htable ▸ List.mem_append_cons_self
      have hlisted := isSpelling_iff.mp (List.all_eq_true.mp spellings.sound _ hentry)
      rw [Char.ofNat_toNat] at hlisted
      have hspelled : spellChar c = ns.map Char.ofNat := by simp [spellChar, expandedBy?, hfound]
      exact Or.inr (hspelled ▸ hlisted)

/-- A letter that is spelled out has the same case folding. -/
theorem foldChars_spellChar (c : Char) : foldChars (spellChar c) = foldChar c := by
  rcases spellChar_cases c with ⟨hself, -⟩ | hspelling
  · rw [hself, foldChars, List.flatMap_singleton]
  · exact hspelling.folded

/-- A letter that is spelled out has the same base letters. -/
theorem flatMap_baseChar_spellChar (c : Char) : (spellChar c).flatMap baseChar = baseChar c := by
  rcases spellChar_cases c with ⟨hself, -⟩ | hspelling
  · rw [hself, List.flatMap_singleton]
  · exact hspelling.base

/-- A letter that is spelled out is the same once case is exchanged. -/
theorem flatMap_swapChar_spellChar (c : Char) : (spellChar c).flatMap swapChar = swapChar c := by
  rcases spellChar_cases c with ⟨hself, -⟩ | hspelling
  · rw [hself, List.flatMap_singleton]
  · exact hspelling.swapped

/-- Only the capital sigma looks at the characters around it. -/
theorem swapAfter_append {cs : List Char} (h : 'Σ' ∉ cs) (before rest : List Char) :
    swapAfter before (cs ++ rest) =
      cs.flatMap swapChar ++ swapAfter (cs.reverse ++ before) rest := by
  induction cs generalizing before with
  | nil => rfl
  | cons c cs ih =>
      rw [List.mem_cons, not_or] at h
      rw [List.cons_append, swapAfter, if_neg (Ne.symm h.1), ih h.2, List.flatMap_cons,
        List.append_assoc, List.reverse_cons, List.append_assoc, List.singleton_append]
      rfl

/-- Where a cased letter comes first, it does not matter what follows. -/
theorem startsCased_append_of_startsCased {cs : List Char} (h : startsCased cs = true)
    (rest : List Char) : startsCased (cs ++ rest) = true := by
  by_cases hskipped : Skipped cs
  · rw [startsCased_of_skipped hskipped] at h
    exact absurd h (by decide)
  · rw [startsCased_append_of_not_skipped hskipped, h]

theorem startsCased_cons_congr {before before' : List Char}
    (h : startsCased before = startsCased before') (c : Char) :
    startsCased (c :: before) = startsCased (c :: before') := by
  rw [startsCased_cons, startsCased_cons, h]

/-- Spelling out does not change whether a cased letter comes first. -/
theorem startsCased_spellOut (cs : List Char) : startsCased (spellOut cs) = startsCased cs := by
  induction cs with
  | nil => rfl
  | cons c cs ih =>
      rw [spellOut, List.flatMap_cons, ← spellOut]
      rcases spellChar_cases c with ⟨hself, -⟩ | hspelling
      · rw [hself]
        exact startsCased_cons_congr ih c
      · rw [startsCased_append_of_startsCased hspelling.front, ← List.singleton_append,
          startsCased_append_of_startsCased hspelling.cased]

/-- Spelling out changes nothing when case is exchanged: a capital sigma has the same form. -/
theorem swapAfter_spellOut {before before' : List Char}
    (h : startsCased before = startsCased before') (cs : List Char) :
    swapAfter before (spellOut cs) = swapAfter before' cs := by
  induction cs generalizing before before' with
  | nil => rfl
  | cons c cs ih =>
      rw [spellOut, List.flatMap_cons, ← spellOut]
      rcases spellChar_cases c with ⟨hself, -⟩ | hspelling
      · rw [hself, List.singleton_append, swapAfter, swapAfter, ih (startsCased_cons_congr h c),
          smallSigma, smallSigma, h, startsCased_spellOut]
      · have hnone : 'Σ' ∉ spellChar c := fun hsigma => (hspelling.letters _ hsigma).1 rfl
        have hcased : startsCased ((spellChar c).reverse ++ before) =
            startsCased (c :: before') := by
          rw [startsCased_append_of_startsCased hspelling.back, ← List.singleton_append,
            startsCased_append_of_startsCased hspelling.cased]
        rw [swapAfter_append hnone, hspelling.swapped, ih hcased, swapAfter,
          if_neg hspelling.ne_sigma]
        rfl

/-- The letter that a letter comes from when case is exchanged.  A small `ß` comes from the capital
one only. -/
def swapBackChar (c : Char) : List Char :=
  if c = 'ß' then ['ẞ'] else swapChar c

/-- An iota subscript written as an iota of its own. -/
def fullIota (c : Char) : Char :=
  if c = iotaSubscript then 'ι' else c

/-- The two pairs of letters that exchanging case does not tell apart, made one. -/
def mergeChar (c : Char) : Char :=
  if c = 'ı' then 'i' else fullIota c

/-- Spelling out once is enough: no letter of a spelling is spelled with others. -/
theorem isSpelled_of_mem_spellChar {c d : Char} (h : d ∈ spellChar c) : IsSpelled d := by
  rcases spellChar_cases c with ⟨hself, hspelled⟩ | hspelling
  · rw [hself, List.mem_singleton] at h
    rwa [h]
  · exact (hspelling.letters d h).2

/-- A regular letter does not become a small sharp `s`, which would be read back as two letters. -/
theorem not_mem_swapChar_of_regular {c : Char} (h : isIrregular c = false) : 'ß' ∉ swapChar c := by
  intro hmem
  have htwo : swapChar 'ß' = ['S', 'S'] := by cbv
  obtain ⟨before, after, hsplit⟩ := List.append_of_mem hmem
  have hlength := congrArg List.length (swapChar_swapChar h)
  rw [hsplit, List.flatMap_append, List.flatMap_cons, htwo] at hlength
  simp only [List.length_append, List.length_cons, List.length_nil] at hlength
  omega

/-- The three letters that are irregular and not spelled out are read back one by one. -/
theorem flatMap_swapBackChar_unspelledChars :
    (unspelledChars.all fun c => (swapChar c).flatMap swapBackChar = [mergeChar c]) = true := by
  unfold swapBackChar swapChar lowerChar upperChar expandedBy? isTitlecase
  simp only [inRanges_eq_any, movedBy?_eq_find?, lookup_eq_find?, any_eq_rec, find?_eq_rec]
  decide +kernel

/-- A letter of a spelling is read back from its case exchanged, up to two pairs of letters. -/
theorem flatMap_swapBackChar_swapChar {c : Char} (h : IsSpelled c) :
    (swapChar c).flatMap swapBackChar = [mergeChar c] := by
  rcases h with hregular | hlisted
  · have hmerge : mergeChar c = c := by
      rw [mergeChar, if_neg, fullIota, if_neg]
      · rintro rfl
        exact absurd hregular (by decide)
      · rintro rfl
        exact absurd hregular (by decide)
    rw [hmerge, ← swapChar_swapChar hregular]
    refine List.flatMap_congr fun d hd => ?_
    rw [swapBackChar, if_neg]
    rintro rfl
    exact not_mem_swapChar_of_regular hregular hd
  · exact of_decide_eq_true (List.all_eq_true.mp flatMap_swapBackChar_unspelledChars c hlisted)

/-- Both forms of the small sigma are read back as the capital one. -/
theorem flatMap_swapBackChar_swapAfter (before cs : List Char) :
    (swapAfter before cs).flatMap swapBackChar = (cs.flatMap swapChar).flatMap swapBackChar := by
  induction cs generalizing before with
  | nil => rfl
  | cons c cs ih =>
      rw [swapAfter, List.flatMap_append, List.flatMap_cons, List.flatMap_append, ih]
      congr 1
      by_cases hsigma : c = 'Σ'
      · have hforms : swapBackChar 'ς' = ['Σ'] ∧ swapBackChar 'σ' = ['Σ'] ∧
            (swapChar 'Σ').flatMap swapBackChar = ['Σ'] := by
          decide_cbv
        rw [if_pos hsigma, hsigma, hforms.2.2, smallSigma, List.flatMap_singleton]
        split
        · exact hforms.1
        · exact hforms.2.1
      · rw [if_neg hsigma]
        rfl

/-- **Reading back.**  A text with its case exchanged tells how the text is spelled, up to two pairs
of letters. -/
theorem flatMap_swapBackChar_swapChars (cs : List Char) :
    (swapChars cs).flatMap swapBackChar = (spellOut cs).map mergeChar := by
  have hletter : ∀ c, (swapChar c).flatMap swapBackChar = (spellChar c).map mergeChar := by
    intro c
    rw [← flatMap_swapChar_spellChar, List.flatMap_assoc, List.map_eq_flatMap]
    exact List.flatMap_congr fun d hd =>
      flatMap_swapBackChar_swapChar (isSpelled_of_mem_spellChar hd)
  rw [swapChars, flatMap_swapBackChar_swapAfter, List.flatMap_assoc, spellOut, List.map_flatMap]
  exact List.flatMap_congr fun c _ => hletter c

/-- Case folding does not tell an iota subscript from an iota. -/
theorem foldChar_fullIota (c : Char) : foldChar (fullIota c) = foldChar c := by
  unfold fullIota
  split
  · next h =>
      rw [h]
      decide_cbv
  · rfl

theorem eq_of_fullIota_eq {c : Char} (h : fullIota c = 'i') : c = 'i' := by
  unfold fullIota at h
  split at h
  · exact absurd h (by decide)
  · exact h

/-- Letters that are merged differ in being an iota subscript or in the dot of the `i`. -/
theorem fullIota_eq_or_of_mergeChar_eq {c d : Char} (h : mergeChar c = mergeChar d) :
    fullIota c = fullIota d ∨ c = 'ı' ∧ d = 'i' ∨ c = 'i' ∧ d = 'ı' := by
  unfold mergeChar at h
  split at h
  · next hc =>
      split at h
      · next hd => exact Or.inl (by rw [hc, hd])
      · exact Or.inr (Or.inl ⟨hc, eq_of_fullIota_eq h.symm⟩)
  · split at h
    · next hd => exact Or.inr (Or.inr ⟨eq_of_fullIota_eq h, hd⟩)
    · exact Or.inl h

/-- Case folding tells the two forms of the `i` apart. -/
theorem map_fullIota_eq {cs ds : List Char} (hmerged : cs.map mergeChar = ds.map mergeChar)
    (hfolded : foldChars cs = foldChars ds) : cs.map fullIota = ds.map fullIota := by
  induction cs generalizing ds with
  | nil => rw [List.map_eq_nil_iff.mp hmerged.symm]
  | cons c cs ih =>
      cases ds with
      | nil => simp at hmerged
      | cons d ds =>
          rw [List.map_cons, List.map_cons] at hmerged
          obtain ⟨hhead, htail⟩ := List.cons.inj hmerged
          rw [foldChars, foldChars, List.flatMap_cons, List.flatMap_cons] at hfolded
          have hforms : foldChar 'ı' = ['ı'] ∧ foldChar 'i' = ['i'] := by decide_cbv
          rcases fullIota_eq_or_of_mergeChar_eq hhead with hsame | ⟨rfl, rfl⟩ | ⟨rfl, rfl⟩
          · rw [← foldChar_fullIota c, ← foldChar_fullIota d, hsame] at hfolded
            rw [List.map_cons, List.map_cons, hsame, ih htail (List.append_cancel_left hfolded)]
          · simp [hforms.1, hforms.2] at hfolded
          · simp [hforms.1, hforms.2] at hfolded

end Text

namespace CollationKey

/-- The key of a text is the key of its spelled-out letters. -/
theorem ofText_eq (s : String) :
    ofText s =
      { base := (Text.spellOut s.toList).flatMap Text.baseChar
        folded := Text.foldChars (Text.spellOut s.toList)
        swapped := Text.swapChars (Text.spellOut s.toList) } := by
  have hfolded : Text.foldChars (Text.spellOut s.toList) = Text.foldChars s.toList := by
    rw [Text.foldChars, Text.spellOut, List.flatMap_assoc]
    exact List.flatMap_congr fun c _ => Text.foldChars_spellChar c
  have hbase : (Text.spellOut s.toList).flatMap Text.baseChar = s.toList.flatMap Text.baseChar := by
    rw [Text.spellOut, List.flatMap_assoc]
    exact List.flatMap_congr fun c _ => Text.flatMap_baseChar_spellChar c
  rw [ofText, Text.foldChars_baseChars, hfolded, hbase, Text.swapChars, Text.swapChars,
    Text.swapAfter_spellOut rfl]

/-- **Ties between spellings.**  Texts that are the same when they are spelled out tie. -/
theorem ofText_eq_of_spellOut_eq {a b : String}
    (h : Text.spellOut a.toList = Text.spellOut b.toList) : ofText a = ofText b := by
  rw [ofText_eq, ofText_eq, h]

/-- **Spellings of ties.**  Texts that tie are the same when they are spelled out, up to the
difference between an iota and an iota subscript. -/
theorem spellOut_eq_of_ofText_eq {a b : String} (h : ofText a = ofText b) :
    (Text.spellOut a.toList).map Text.fullIota = (Text.spellOut b.toList).map Text.fullIota := by
  have hfolded := congrArg folded h
  have hswapped := congrArg (fun key => key.swapped.flatMap Text.swapBackChar) h
  rw [ofText_eq, ofText_eq] at hfolded
  simp only [ofText, Text.flatMap_swapBackChar_swapChars] at hswapped
  exact Text.map_fullIota_eq hswapped hfolded

end CollationKey

end Catalogue
