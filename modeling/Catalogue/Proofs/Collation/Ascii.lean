import Mathlib
import Catalogue.Proofs.Collation.Accents
import Catalogue.Proofs.Selection.Sorting

/-!
# Collation of ASCII texts

In ASCII the components of a collation key are found letter by letter: the first two are the text in
small letters, the third one the text with every letter in its other case
(`CollationKey.ofText_of_isAscii`).  Capital letters come before small ones, so among texts with the
same small letters the third component puts first what has the small letter where they first differ
(`Text.map_otherCase_lt_iff`).  Together this is the alphabetical order of ASCII texts
(`CollationKey.components_lt_iff`).
-/

namespace Catalogue

namespace Text

variable {c d : Char} {cs ds : List Char}

/-- A letter of ASCII in its other case. -/
def otherCase (c : Char) : Char :=
  if c.isUpper then c.toLower else c.toUpper

/-- Different characters with the same small letter are a capital letter and its small one. -/
theorem eq_toLower_of_toLower_eq (h : c.toLower = d.toLower) (hne : c ≠ d) :
    c.isUpper = true ∧ d = c.toLower ∨ d.isUpper = true ∧ c = d.toLower := by
  have hcapital : ∀ {c : Char}, c.isUpper = true → c.toLower.toUpper = c := by
    intro c hc
    rw [Char.toUpper_toLower_eq_toUpper,
      Char.toUpper_eq_of_not_isLower (Char.not_isLower_of_isUpper hc)]
  by_cases hc : c.isUpper = true
  · by_cases hd : d.isUpper = true
    · rw [← hcapital hc, ← hcapital hd, h] at hne
      exact absurd rfl hne
    · exact Or.inl ⟨hc, by rw [h, Char.toLower_eq_of_not_isUpper hd]⟩
  · rw [Char.toLower_eq_of_not_isUpper hc] at h
    by_cases hd : d.isUpper = true
    · exact Or.inr ⟨hd, h⟩
    · rw [Char.toLower_eq_of_not_isUpper hd] at h
      exact absurd h hne

/-- Each of two letters that differ in case is the other one in its other case. -/
theorem otherCase_eq (h : c.toLower = d.toLower) (hne : c ≠ d) : otherCase c = d := by
  rcases eq_toLower_of_toLower_eq h hne with ⟨hc, rfl⟩ | ⟨hd, rfl⟩
  · rw [otherCase, if_pos hc]
  · rw [otherCase, if_neg (by simp), Char.toUpper_toLower_eq_toUpper,
      Char.toUpper_eq_of_not_isLower (Char.not_isLower_of_isUpper hd)]

/-- **Capital letters** come before small ones. -/
theorem lt_toLower (h : c.isUpper = true) : c < c.toLower := by
  have hrange : c.toNat ≤ 90 := by
    simp only [Char.isUpper, UInt32.le_iff_toNat_le, decide_eq_true_eq] at h
    exact h.2
  have hvalid : (c.toNat + 32).isValidChar := Or.inl (by omega)
  rw [Char.toLower_eq_of_isUpper h, Char.lt_def, UInt32.lt_iff_toNat_lt, Char.toNat_val,
    Char.toNat_val, Char.toNat_ofNat, if_pos hvalid]
  omega

/-- Of two letters that differ in case, the small one comes second. -/
theorem lt_iff_isLower (h : c.toLower = d.toLower) (hne : c ≠ d) : d < c ↔ c.isLower = true := by
  rcases eq_toLower_of_toLower_eq h hne with ⟨hc, rfl⟩ | ⟨hd, rfl⟩
  · exact iff_of_false (lt_asymm (lt_toLower hc)) (Char.not_isLower_of_isUpper hc)
  · refine iff_of_true (lt_toLower hd) ?_
    rw [Char.isLower_toLower_eq_isAlpha, Char.isAlpha, hd, Bool.true_or]

/-- Two texts differ, and where they first do, the first one has a small letter. -/
def SmallFirst (cs ds : List Char) : Prop :=
  ∃ front c d cs' ds', cs = front ++ c :: cs' ∧ ds = front ++ d :: ds' ∧ c ≠ d ∧ c.isLower = true

theorem not_smallFirst_nil (cs : List Char) : ¬ SmallFirst cs [] := by
  rintro ⟨front, c, d, cs', ds', -, hnil, -⟩
  exact List.append_ne_nil_of_right_ne_nil front (List.cons_ne_nil d ds') hnil.symm

/-- The first difference is at the first letters or behind them. -/
theorem smallFirst_cons_iff :
    SmallFirst (c :: cs) (d :: ds) ↔ c ≠ d ∧ c.isLower = true ∨ c = d ∧ SmallFirst cs ds := by
  constructor
  · rintro ⟨front, c', d', cs', ds', hcs, hds, hne, hsmall⟩
    cases front with
    | nil =>
        obtain ⟨rfl, -⟩ := List.cons.inj hcs
        obtain ⟨rfl, -⟩ := List.cons.inj hds
        exact Or.inl ⟨hne, hsmall⟩
    | cons first front =>
        obtain ⟨rfl, rfl⟩ := List.cons.inj hcs
        obtain ⟨rfl, rfl⟩ := List.cons.inj hds
        exact Or.inr ⟨rfl, front, c', d', cs', ds', rfl, rfl, hne, hsmall⟩
  · rintro (⟨hne, hsmall⟩ | ⟨rfl, front, c', d', cs', ds', rfl, rfl, hne, hsmall⟩)
    · exact ⟨[], c, d, cs, ds, rfl, rfl, hne, hsmall⟩
    · exact ⟨c :: front, c', d', cs', ds', rfl, rfl, hne, hsmall⟩

/-- **Case at the first difference.**  Of two texts with the same small letters, the one with the
small letter where they first differ comes first when all letters are in their other case. -/
theorem map_otherCase_lt_iff (h : cs.map Char.toLower = ds.map Char.toLower) :
    cs.map otherCase < ds.map otherCase ↔ SmallFirst cs ds := by
  induction cs generalizing ds with
  | nil =>
      rw [List.map_nil, eq_comm, List.map_eq_nil_iff] at h
      rw [h]
      exact iff_of_false (lt_irrefl _) (not_smallFirst_nil [])
  | cons c cs ih =>
      cases ds with
      | nil => simp at h
      | cons d ds =>
          obtain ⟨hfirst, hrest⟩ := List.cons.inj h
          rw [List.map_cons, List.map_cons, List.cons_lt_cons_iff, smallFirst_cons_iff, ih hrest]
          by_cases hsame : c = d
          · simp [hsame]
          · have hother := otherCase_eq hfirst hsame
            have hother' := otherCase_eq hfirst.symm (Ne.symm hsame)
            rw [hother, hother', lt_iff_isLower hfirst hsame]
            simp [hsame, Ne.symm hsame]

/-- All characters of a text are in ASCII. -/
def IsAsciiText (s : String) : Prop :=
  ∀ c ∈ s.toList, isAscii c = true

instance (s : String) : Decidable (IsAsciiText s) :=
  decidable_of_iff (s.toList.all isAscii = true) List.all_eq_true

/-- The base letter of a character of ASCII is its small letter. -/
theorem baseChar_of_isAscii (h : isAscii c = true) : baseChar c = [c.toLower] := by
  have hall : ∀ n < 0x80, baseChar (Char.ofNat n) = [(Char.ofNat n).toLower] := by decide +kernel
  have hc := hall c.toNat (by simpa [isAscii] using h)
  rwa [Char.ofNat_toNat] at hc

/-- A character of ASCII becomes the other letter of its pair, or stays. -/
theorem swapChar_of_isAscii (h : isAscii c = true) : swapChar c = [otherCase c] := by
  have hall : ∀ n < 0x80, swapChar (Char.ofNat n) = [otherCase (Char.ofNat n)] := by decide +kernel
  have hc := hall c.toNat (by simpa [isAscii] using h)
  rwa [Char.ofNat_toNat] at hc

theorem foldChar_of_isAscii (h : isAscii c = true) : foldChar c = [c.toLower] := by
  rw [foldChar, if_pos h]

/-- What makes one character of each character of a text is a map. -/
theorem flatMap_eq_map {f : Char → List Char} {g : Char → Char} (hf : ∀ c ∈ cs, f c = [g c]) :
    cs.flatMap f = cs.map g := by
  rw [List.map_eq_flatMap]
  exact List.flatMap_congr hf

/-- No capital sigma is in ASCII, so case is exchanged letter by letter. -/
theorem swapChars_of_isAscii (h : ∀ c ∈ cs, isAscii c = true) :
    swapChars cs = cs.map otherCase := by
  have hsigma : 'Σ' ∉ cs := fun hmem => absurd (h _ hmem) (by decide)
  have hrun := swapAfter_append hsigma [] []
  rw [List.append_nil, swapAfter, List.append_nil] at hrun
  rw [swapChars, hrun]
  exact flatMap_eq_map fun c hc => swapChar_of_isAscii (h c hc)

/-- Exchanging case in ASCII is undone by doing it again. -/
theorem flatMap_swapChar_swapChars (h : ∀ c ∈ cs, isAscii c = true) :
    (swapChars cs).flatMap swapChar = cs := by
  have hletters : swapChars cs = cs.flatMap swapChar := by
    rw [swapChars_of_isAscii h]
    exact (flatMap_eq_map fun c hc => swapChar_of_isAscii (h c hc)).symm
  rw [hletters, List.flatMap_assoc]
  calc cs.flatMap (fun c => (swapChar c).flatMap swapChar) = cs.map id :=
        flatMap_eq_map fun c hc => swapChar_swapChar_of_isAscii (h c hc)
    _ = cs := List.map_id cs

/-- The lower case of a text in ASCII is found letter by letter. -/
theorem toList_lower_of_isAscii {s : String} (h : IsAsciiText s) :
    (lower s).toList = s.toList.map Char.toLower := by
  rw [lower, String.toList_ofList, lowerChars, lowerAfter_of_isAscii h]

/-- Alphabetical order: by small letters, and where these are the same, the small letter first. -/
def Precedes (s t : String) : Prop :=
  lower s < lower t ∨ lower s = lower t ∧ SmallFirst s.toList t.toList

end Text

namespace CollationKey

open Text (IsAsciiText Precedes otherCase)

variable {s t : String}

/-- **The key of an ASCII text** is found letter by letter. -/
theorem ofText_of_isAscii (h : IsAsciiText s) :
    ofText s =
      { base := s.toList.map Char.toLower
        folded := s.toList.map Char.toLower
        swapped := s.toList.map otherCase } := by
  have hbase : Text.foldChars (Text.baseChars s.toList) = s.toList.map Char.toLower := by
    rw [Text.foldChars_baseChars]
    exact Text.flatMap_eq_map fun c hc => Text.baseChar_of_isAscii (h c hc)
  have hfolded : Text.foldChars s.toList = s.toList.map Char.toLower :=
    Text.flatMap_eq_map fun c hc => Text.foldChar_of_isAscii (h c hc)
  rw [ofText, hbase, hfolded, Text.swapChars_of_isAscii h]

/-- **Keys of ASCII texts** are in alphabetical order. -/
theorem components_lt_iff (hs : IsAsciiText s) (ht : IsAsciiText t) :
    (ofText s).components < (ofText t).components ↔ Precedes s t := by
  have hletters : Text.lower s = Text.lower t ↔
      (Text.lower s).toList = (Text.lower t).toList := String.toList_inj.symm
  rw [Precedes, String.lt_iff, hletters, Text.toList_lower_of_isAscii hs,
    Text.toList_lower_of_isAscii ht, ofText_of_isAscii hs, ofText_of_isAscii ht, components,
    components, Prod.Lex.toLex_lt_toLex, Prod.Lex.toLex_lt_toLex]
  refine or_congr_right (and_congr_right fun hsame => ?_)
  dsimp only at hsame ⊢
  rw [← Text.map_otherCase_lt_iff hsame]
  simp [hsame]

/-- ASCII texts with the same key are the same. -/
theorem ofText_inj_of_isAscii (hs : IsAsciiText s) (ht : IsAsciiText t) :
    ofText s = ofText t ↔ s = t := by
  refine ⟨fun hkey => ?_, congrArg ofText⟩
  have hback := congrArg (fun key => key.swapped.flatMap Text.swapChar) hkey
  rw [← String.toList_inj, ← Text.flatMap_swapChar_swapChars hs,
    ← Text.flatMap_swapChar_swapChars ht]
  exact hback

end CollationKey

end Catalogue
