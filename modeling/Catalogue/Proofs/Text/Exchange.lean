import Mathlib
import Catalogue.Proofs.Text.LetterCase

/-!
# Exchanging upper and lower case twice

Exchanging the case of a letter is undone by doing it again, with some hundred exceptions
(`swapChar_swapChar`).  These are variants of other letters, such as the long `s` and the sign for
kelvin, and small letters without a capital, whose upper case is spelled with several letters.

The tables are compared run by run.  A run of one table is undone by the other table when the first
run there that can meet its images moves them all back (`CaseRun.isUndoneBy`).
-/

namespace Catalogue.Text

/-- Upper and lower case exchanged in a character that stands alone.  Title-case letters stay. -/
def swapChar (c : Char) : List Char :=
  if isTitlecase c then [c]
  else if lowerChar c = [c] then upperChar c
  else lowerChar c

namespace CaseRun

/-- Whether a run moves what another one moves, and in the same way. -/
def isPartOf (run other : CaseRun) : Bool :=
  Nat.ble other.first run.first && Nat.ble run.last other.last && run.shift == other.shift &&
    (Nat.beq (run.step % other.step) 0 || Nat.beq run.first run.last) &&
    Nat.beq ((run.first - other.first) % other.step) 0

/-- Whether the first run of a table that can meet the images of a run moves them all back. -/
def isUndoneBy (table : List CaseRun) (run : CaseRun) : Bool :=
  (table.find? fun other => !run.image.isApart other).any (run.image.isPartOf ·)

/-- The code points of a run, each as a run of its own. -/
def singles (run : CaseRun) : List CaseRun :=
  (List.range ((run.last - run.first) / run.step + 1)).map fun i =>
    { run with first := run.first + i * run.step, last := run.first + i * run.step }

variable {run other : CaseRun} {n : Nat}

/-- A run lists what its parts list. -/
theorem Lists.of_isPartOf (h : run.Lists n) (hpart : run.isPartOf other = true) :
    other.Lists n := by
  obtain ⟨hfirst, hlast, hstep⟩ := h
  simp only [isPartOf, Bool.and_eq_true, Bool.or_eq_true, Nat.ble_eq] at hpart
  obtain ⟨⟨⟨⟨hbelow, habove⟩, -⟩, hdivides⟩, hoffset⟩ := hpart
  have hstart : other.step ∣ run.first - other.first :=
    Nat.dvd_of_mod_eq_zero (Nat.eq_of_beq_eq_true hoffset)
  have hdistance : other.step ∣ n - run.first := by
    rcases hdivides with hmultiple | hsingle
    · exact (Nat.dvd_of_mod_eq_zero (Nat.eq_of_beq_eq_true hmultiple)).trans
        (Nat.dvd_of_mod_eq_zero hstep)
    · have := Nat.eq_of_beq_eq_true hsingle
      rw [show n - run.first = 0 by omega]
      exact dvd_zero _
  refine ⟨by omega, by omega, Nat.mod_eq_zero_of_dvd ?_⟩
  rw [show n - other.first = n - run.first + (run.first - other.first) by omega]
  exact dvd_add hdistance hstart

/-- Every code point of a run is a run of its own. -/
theorem Lists.exists_single (h : run.Lists n) :
    { run with first := n, last := n } ∈ run.singles := by
  obtain ⟨hfirst, hlast, hstep⟩ := h
  refine List.mem_map.mpr ⟨(n - run.first) / run.step, List.mem_range.mpr ?_, ?_⟩
  · exact Nat.lt_succ_of_le (Nat.div_le_div_right (by omega))
  · have hn : run.first + (n - run.first) / run.step * run.step = n := by
      rw [Nat.div_mul_cancel (Nat.dvd_of_mod_eq_zero hstep)]
      omega
    rw [hn]

/-- A table that undoes a run moves each image back. -/
theorem Lists.findSome?_eq_of_isUndoneBy {table : List CaseRun} (h : run.Lists n)
    (hshift : 0 ≤ run.first + run.shift) (hundone : run.isUndoneBy table = true) :
    table.findSome? (·.target? (n + run.shift).toNat) = some n := by
  have hlisted := h.image hshift
  obtain ⟨other, hfound, hpart⟩ := (Option.any_eq_true _ _).mp hundone
  obtain ⟨-, earlier, later, rfl, hapart⟩ := List.find?_eq_some_iff_append.mp hfound
  have hmissed : earlier.findSome? (·.target? (n + run.shift).toNat) = none := by
    refine List.findSome?_eq_none_iff.mpr fun r hr => target?_eq_none_iff.mpr ?_
    exact hlisted.not_of_isApart (by simpa using hapart r hr)
  have hmoved : other.target? (n + run.shift).toNat = some n := by
    refine target?_eq_some_iff.mpr ⟨hlisted.of_isPartOf hpart, ?_⟩
    have hback : run.image.shift = other.shift := by
      simp only [isPartOf, Bool.and_eq_true, beq_iff_eq] at hpart
      exact hpart.1.1.2
    have hfirst := h.1
    simp only [CaseRun.image] at hback
    omega
  rw [List.findSome?_append, hmissed, Option.none_or, List.findSome?_cons, hmoved]

end CaseRun

/-- The code points of the letters that are not given back when their case is exchanged twice. -/
def irregularRanges : List (Nat × Nat) := [
  (0xB5, 0xB5), (0xDF, 0xDF), (0x130, 0x131), (0x149, 0x149), (0x17F, 0x17F), (0x1F0, 0x1F0),
  (0x345, 0x345), (0x390, 0x390), (0x3B0, 0x3B0), (0x3C2, 0x3C2), (0x3D0, 0x3D1), (0x3D5, 0x3D6),
  (0x3F0, 0x3F1), (0x3F4, 0x3F5), (0x587, 0x587), (0x1C80, 0x1C88), (0x1E96, 0x1E9B),
  (0x1E9E, 0x1E9E), (0x1F50, 0x1F50), (0x1F52, 0x1F52), (0x1F54, 0x1F54), (0x1F56, 0x1F56),
  (0x1F80, 0x1F87), (0x1F90, 0x1F97), (0x1FA0, 0x1FA7), (0x1FB2, 0x1FB4), (0x1FB6, 0x1FB7),
  (0x1FBE, 0x1FBE), (0x1FC2, 0x1FC4), (0x1FC6, 0x1FC7), (0x1FD2, 0x1FD3), (0x1FD6, 0x1FD7),
  (0x1FE2, 0x1FE4), (0x1FE6, 0x1FE7), (0x1FF2, 0x1FF4), (0x1FF6, 0x1FF7), (0x2126, 0x2126),
  (0x212A, 0x212B), (0xFB00, 0xFB06), (0xFB13, 0xFB17)]

/-- Whether a letter is not given back when its case is exchanged twice. -/
def isIrregular (c : Char) : Bool :=
  inRanges irregularRanges c.toNat

/-- The code points that the comparison of the tables leaves out: the irregular letters, and the
title-case letters, which are never exchanged. -/
def exemptRanges : List (Nat × Nat) :=
  irregularRanges ++ titlecaseRanges

/-- Whether the code points of a run belong to characters outside ASCII none of which is exempt. -/
def CaseRun.isPlain (run : CaseRun) : Bool :=
  Nat.ble 0x80 run.first && (Nat.blt run.last 0xD800 || Nat.ble 0xE000 run.first) &&
    Nat.blt run.last 0x110000 && exemptRanges.all fun range => run.isApart (.ofRange range)

/-- Whether another table undoes the runs of a table, the exempt code points apart. -/
def IsUndoneBy (table others : List CaseRun) : Prop :=
  ∀ run ∈ table, (run.isUndoneBy others && run.image.isPlain) = true ∨
    ∀ single ∈ run.singles, inRanges exemptRanges single.first = true ∨
      (single.isUndoneBy others && single.image.isPlain) = true

/-- Upper case undoes lower case. -/
theorem lowerRuns_isUndoneBy : IsUndoneBy lowerRuns upperRuns := by
  unfold IsUndoneBy CaseRun.isUndoneBy CaseRun.isPlain
  simp only [inRanges_eq_any, any_eq_rec, all_eq_rec, find?_eq_rec]
  decide +kernel

/-- Lower case undoes upper case. -/
theorem upperRuns_isUndoneBy : IsUndoneBy upperRuns lowerRuns := by
  unfold IsUndoneBy CaseRun.isUndoneBy CaseRun.isPlain
  simp only [inRanges_eq_any, any_eq_rec, all_eq_rec, find?_eq_rec]
  decide +kernel

/-- A letter whose upper case is spelled with several letters is exempt. -/
theorem inRanges_of_mem_upperExpansions :
    ∀ entry ∈ upperExpansions, inRanges exemptRanges entry.1 = true := by
  simp only [inRanges_eq_any, any_eq_rec]
  decide +kernel

/-- A character whose code point a plain run lists is none of ASCII and is not exempt. -/
theorem CaseRun.Lists.plain {run : CaseRun} {n : Nat} (h : run.Lists n)
    (hplain : run.isPlain = true) :
    (Char.ofNat n).toNat = n ∧ 0x80 ≤ n ∧ inRanges exemptRanges n = false := by
  obtain ⟨hfirst, hlast, -⟩ := id h
  simp only [isPlain, Bool.and_eq_true, Bool.or_eq_true, Nat.ble_eq, Nat.blt_eq,
    List.all_eq_true] at hplain
  obtain ⟨⟨⟨habove, hsurrogate⟩, hbound⟩, hapart⟩ := hplain
  have hvalid : n.isValidChar := by
    rw [Nat.isValidChar]
    omega
  refine ⟨?_, by omega, ?_⟩
  · rw [Char.toNat_ofNat, if_pos hvalid]
  · rw [Bool.eq_false_iff]
    intro hexempt
    obtain ⟨range, hrange, hin⟩ := inRanges_eq_true_iff.mp hexempt
    exact h.not_of_isApart (hapart range hrange) (lists_ofRange.mpr hin)

/-- What a table moves is moved back by a table that undoes it, unless it is exempt. -/
theorem IsUndoneBy.movedBy?_eq {table others : List CaseRun} (h : IsUndoneBy table others)
    {c d : Char} (hc : inRanges exemptRanges c.toNat = false)
    (hmoved : movedBy? table c = some d) :
    movedBy? others d = some c ∧ isAscii d = false ∧ inRanges exemptRanges d.toNat = false := by
  obtain ⟨run, hrun, hlists, rfl⟩ := exists_lists_of_movedBy?_eq_some hmoved
  -- It does not matter whether the run is undone as a whole or the letter on its own.
  obtain ⟨part, hpart, hshift, hundone⟩ : ∃ part : CaseRun, part.Lists c.toNat ∧
      part.shift = run.shift ∧ (part.isUndoneBy others && part.image.isPlain) = true := by
    rcases h run hrun with hwhole | hsingles
    · exact ⟨run, hlists, rfl, hwhole⟩
    · refine ⟨{ run with first := c.toNat, last := c.toNat }, ?_, rfl, ?_⟩
      · exact ⟨le_refl _, le_refl _, by rw [Nat.sub_self, Nat.zero_mod]⟩
      · exact (hsingles _ hlists.exists_single).resolve_left (by simp [hc])
  obtain ⟨hback, hplain⟩ := (Bool.and_eq_true _ _).mp hundone
  have hpositive : 0 ≤ part.first + part.shift := by
    simp only [CaseRun.isPlain, Bool.and_eq_true, Nat.ble_eq, CaseRun.image] at hplain
    omega
  have himage := hpart.image hpositive
  have hfirst := hpart.findSome?_eq_of_isUndoneBy hpositive hback
  rw [hshift] at himage hfirst
  obtain ⟨hvalid, habove, hexempt⟩ := himage.plain hplain
  refine ⟨?_, ?_, by rwa [hvalid]⟩
  · rw [movedBy?, hvalid, hfirst, Option.map_some, Char.ofNat_toNat]
  · rw [isAscii, decide_eq_false_iff_not, hvalid]
    omega

/-- Exchanging case gives the letters of ASCII back. -/
theorem swapChar_swapChar_of_isAscii {c : Char} (h : isAscii c = true) :
    (swapChar c).flatMap swapChar = [c] := by
  have hall : ∀ n < 0x80, (swapChar (Char.ofNat n)).flatMap swapChar = [Char.ofNat n] := by
    decide +kernel
  have hc := hall c.toNat (by simpa [isAscii] using h)
  rwa [Char.ofNat_toNat] at hc

/-- The exempt letters are those of the irregular ranges and the title-case letters. -/
theorem inRanges_exemptRanges (c : Char) :
    inRanges exemptRanges c.toNat = (isIrregular c || isTitlecase c) := by
  rw [exemptRanges, inRanges, List.any_append, isIrregular, isTitlecase, inRanges, inRanges]

/-- A character outside ASCII that is not exempt has one lower-case and one upper-case letter. -/
theorem caseChars_of_not_exempt {c : Char} (hascii : isAscii c = false)
    (hexempt : inRanges exemptRanges c.toNat = false) :
    isTitlecase c = false ∧ lowerChar c = [(movedBy? lowerRuns c).getD c] ∧
      upperChar c = [(movedBy? upperRuns c).getD c] := by
  have htitle : isTitlecase c = false := by
    rw [inRanges_exemptRanges, Bool.or_eq_false_iff] at hexempt
    exact hexempt.2
  have hdotted : c ≠ 'İ' := by
    rintro rfl
    exact absurd hexempt (by decide)
  have hsingle : expandedBy? upperExpansions c = none := by
    rw [expandedBy?, Option.map_eq_none_iff, List.lookup_eq_none_iff]
    intro entry hentry
    rw [bne_iff_ne]
    intro hentry_eq
    rw [hentry_eq, inRanges_of_mem_upperExpansions entry hentry] at hexempt
    exact absurd hexempt (by decide)
  exact ⟨htitle, by simp [lowerChar, hascii, hdotted], by simp [upperChar, hascii, hsingle]⟩

theorem swapChar_of_lowerChar_eq {c : Char} (htitle : isTitlecase c = false)
    (hlower : lowerChar c = [c]) : swapChar c = upperChar c := by
  simp [swapChar, htitle, hlower]

theorem swapChar_of_lowerChar_ne {c d : Char} (htitle : isTitlecase c = false)
    (hlower : lowerChar c = [d]) (hne : d ≠ c) : swapChar c = [d] := by
  simp [swapChar, htitle, hlower, hne]

section

variable {c d : Char} (hascii : isAscii c = false)
  (hexempt : inRanges exemptRanges c.toNat = false)

include hascii hexempt

/-- A letter that has a lower case comes back from there, since the lower case stays as it is. -/
theorem swapChar_swapChar_of_lowered (hlowered : movedBy? lowerRuns c = some d) :
    (swapChar c).flatMap swapChar = [c] := by
  obtain ⟨htitle, hlower, -⟩ := caseChars_of_not_exempt hascii hexempt
  obtain ⟨hback, hascii', hexempt'⟩ := lowerRuns_isUndoneBy.movedBy?_eq hexempt hlowered
  obtain ⟨htitle', hlower', hupper'⟩ := caseChars_of_not_exempt hascii' hexempt'
  have hstays := movedBy?_lowerRuns_eq_none hlowered
  have hne : d ≠ c := by
    rintro rfl
    simp [hstays] at hlowered
  rw [hlowered, Option.getD_some] at hlower
  rw [hstays, Option.getD_none] at hlower'
  rw [hback, Option.getD_some] at hupper'
  rw [swapChar_of_lowerChar_ne htitle hlower hne, List.flatMap_singleton,
    swapChar_of_lowerChar_eq htitle' hlower', hupper']

/-- A letter that has no lower case but an upper case comes back from there. -/
theorem swapChar_swapChar_of_raised (hlowered : movedBy? lowerRuns c = none)
    (hraised : movedBy? upperRuns c = some d) : (swapChar c).flatMap swapChar = [c] := by
  obtain ⟨htitle, hlower, hupper⟩ := caseChars_of_not_exempt hascii hexempt
  obtain ⟨hback, hascii', hexempt'⟩ := upperRuns_isUndoneBy.movedBy?_eq hexempt hraised
  obtain ⟨htitle', hlower', -⟩ := caseChars_of_not_exempt hascii' hexempt'
  have hne : c ≠ d := by
    rintro rfl
    simp [hback] at hlowered
  rw [hlowered, Option.getD_none] at hlower
  rw [hraised, Option.getD_some] at hupper
  rw [hback, Option.getD_some] at hlower'
  rw [swapChar_of_lowerChar_eq htitle hlower, hupper, List.flatMap_singleton,
    swapChar_of_lowerChar_ne htitle' hlower' hne]

/-- A character that has neither a lower nor an upper case stays as it is. -/
theorem swapChar_of_unmoved (hlowered : movedBy? lowerRuns c = none)
    (hraised : movedBy? upperRuns c = none) : swapChar c = [c] := by
  obtain ⟨htitle, hlower, hupper⟩ := caseChars_of_not_exempt hascii hexempt
  rw [hlowered, Option.getD_none] at hlower
  rw [hraised, Option.getD_none] at hupper
  rw [swapChar_of_lowerChar_eq htitle hlower, hupper]

end

/-- **Exchanging case twice.**  Every letter that is not irregular is given back when its case is
exchanged twice. -/
theorem swapChar_swapChar {c : Char} (h : isIrregular c = false) :
    (swapChar c).flatMap swapChar = [c] := by
  by_cases htitle : isTitlecase c = true
  · simp [swapChar, htitle]
  by_cases hascii : isAscii c = true
  · exact swapChar_swapChar_of_isAscii hascii
  rw [Bool.not_eq_true] at htitle hascii
  have hexempt : inRanges exemptRanges c.toNat = false := by
    rw [inRanges_exemptRanges, h, htitle, Bool.or_false]
  cases hlowered : movedBy? lowerRuns c with
  | some d => exact swapChar_swapChar_of_lowered hascii hexempt hlowered
  | none =>
      cases hraised : movedBy? upperRuns c with
      | some u => exact swapChar_swapChar_of_raised hascii hexempt hlowered hraised
      | none =>
          have hstays := swapChar_of_unmoved hascii hexempt hlowered hraised
          rw [hstays, List.flatMap_singleton, hstays]

end Catalogue.Text
