import Mathlib
import Catalogue.Proofs.Display.StyledText
import Catalogue.Proofs.Facet.Counting
import Catalogue.Proofs.Statistics.Weight

/-!
# The tag cloud

The most frequent tags stand next to each other, each in its colour, and those with a bold weight
are bold.  All weights are relative to the count of the first tag, which no tag exceeds
(`Tally.IsTopOf.count_le`).  So, up to a count of 2⁵⁰, a tag is bold exactly when it occurs at least
half as often as the most frequent one (`Report.cloud_isBold`).
-/

namespace Catalogue

/-- All tags of some records, in order. -/
def Record.allTags (rs : List Record) : List String :=
  rs.flatMap (·.cleanTags)

/-- How often the most frequent tag of some records occurs; zero without tags. -/
def Record.greatestTagCount (rs : List Record) : Nat :=
  (Record.allTags rs).toFinset.sup (Record.allTags rs).count

/-- The first row has the greatest count. -/
theorem Tally.IsTopOf.sup_count {first : String × Nat} {rest : Tally} {limit : Nat}
    {counted : List String} (h : Tally.IsTopOf (first :: rest) limit counted) :
    counted.toFinset.sup counted.count = first.2 := by
  obtain ⟨hcounted, hfirst⟩ := h.counts first List.mem_cons_self
  refine le_antisymm (Finset.sup_le fun name hname => h.count_le (List.mem_toFinset.mp hname)) ?_
  rw [hfirst]
  exact Finset.le_sup (f := counted.count) (List.mem_toFinset.mpr hcounted)

/-- **The tags of the cloud** are tags of the records, and their weights are relative to the
greatest count. -/
theorem Statistics.exists_topTags (rs : List Record) :
    ∃ s, Statistics.ofRecords rs = .ok s ∧ ∀ tag ∈ s.topTags, ∃ count : Nat,
      tag.count = count ∧ tag.name ∈ Record.allTags rs ∧
        count = (Record.allTags rs).count tag.name ∧
        Weight.ofCount count (Record.greatestTagCount rs) = .ok tag.weight := by
  obtain ⟨tags, hstatistics, hentries, hrelative⟩ := Statistics.exists_ofRecords rs
  refine ⟨_, hstatistics, fun tag htag => ?_⟩
  have htop := Tally.isTopOf_top (rs.flatMap (·.cleanTags)) 60
  generalize (Tally.ofList (rs.flatMap (·.cleanTags))).top 60 = table at hentries htop
  have hentry : tag.entry ∈ table.entries := hentries ▸ List.mem_map_of_mem htag
  obtain ⟨row, hrow, heq⟩ := List.mem_map.mp hentry
  obtain ⟨hcounted, hcount⟩ := htop.counts row hrow
  have hname : row.1 = tag.name := congrArg Prod.fst heq
  have hnumber : (row.2 : Int) = tag.count := congrArg Prod.snd heq
  obtain ⟨first, rest, rfl⟩ := List.exists_cons_of_ne_nil (List.ne_nil_of_mem hrow)
  -- The first tag belongs to the first row, so its count is the greatest one.
  cases tags with
  | nil => exact absurd htag List.not_mem_nil
  | cons head others =>
      have hhead : head.count = (first.2 : Int) :=
        congrArg Prod.snd (List.cons.inj hentries).1
      have hweight := (hrelative head rfl).2 tag htag
      rw [hhead, ← htop.sup_count] at hweight
      rw [hname] at hcounted hcount
      rw [← hnumber] at hweight
      exact ⟨row.2, hnumber.symm, hcounted, hcount, hweight⟩

namespace Report

/-- A style is bold if one of its words says so. -/
def IsBold (style : String) : Prop :=
  "bold" ∈ Text.split ' ' style

instance : DecidablePred IsBold := fun style =>
  inferInstanceAs (Decidable ("bold" ∈ Text.split ' ' style))

theorem isBold_append (style : String) : IsBold ("bold " ++ style) := by
  have hfirst : Text.split ' ' "bold" = ["bold"] := by decide +kernel
  have hparts := Text.split_append ' ' "bold" style
  rw [hfirst] at hparts
  exact (congrArg ("bold" ∈ ·) hparts).mpr List.mem_cons_self

/-- No colour of the palette is bold. -/
theorem not_isBold_tagStyle (tag : String) : ¬ IsBold (tagStyle tag) := by
  have hpalette : ∀ color ∈ TagColor.palette, ¬ IsBold color.style := by decide +kernel
  exact hpalette _ (List.get_mem _ _)

/-- A tag of the cloud is bold from the least bold weight on. -/
theorem isBold_cloudStyle_iff (tag : WeightedTag) :
    IsBold (cloudStyle tag) ↔ boldWeight.le tag.weight = true := by
  rw [cloudStyle]
  split
  · next hbold => exact iff_of_true (isBold_append _) hbold
  · next hlight => exact iff_of_false (not_isBold_tagStyle _) hlight

/-- How a tag of the cloud is drawn: its name is shown, and it is bold if it occurs at least half as
often as the most frequent tag. -/
structure IsDrawnAs (rs : List Record) (tag : WeightedTag) (piece : String × String) : Prop where
  name_eq : piece.1 = StyledText.shown tag.name
  count_eq : tag.count = (Record.allTags rs).count tag.name
  bold_iff : IsBold piece.2 ↔ Record.greatestTagCount rs ≤ 2 * tag.count

/-- The tags of the cloud are drawn one after the other. -/
theorem drawn_cloud {tags : List WeightedTag} (h : ∀ tag ∈ tags, tag.name ≠ "") :
    (cloud tags).drawn = tags.map fun tag => (StyledText.shown tag.name, cloudStyle tag) := by
  rw [cloud, StyledText.drawn_appendAll]
  · simp only [StyledText.shownPieces, List.map_map, Function.comp_def]
  · intro piece hpiece
    obtain ⟨tag, htag, rfl⟩ := List.mem_map.mp hpiece
    exact h tag htag

/-- **The tag cloud.**  Where no tag occurs more than 2⁵⁰ times, those are bold that occur at least
half as often as the most frequent one. -/
theorem cloud_isBold {rs : List Record} (h : Record.greatestTagCount rs ≤ 2 ^ 50) :
    ∃ s text, Statistics.ofRecords rs = .ok s ∧
      (Report.statistics s).getLast? = some (.text text) ∧
      List.Forall₂ (IsDrawnAs rs) s.topTags text.drawn := by
  obtain ⟨s, hstatistics, htags⟩ := Statistics.exists_topTags rs
  refine ⟨s, cloud s.topTags, hstatistics, rfl, ?_⟩
  have hnames : ∀ tag ∈ s.topTags, tag.name ≠ "" := by
    intro tag htag
    obtain ⟨-, -, hlisted, -, -⟩ := htags tag htag
    obtain ⟨r, -, hname⟩ := List.mem_flatMap.mp hlisted
    exact (Record.mem_cleanTags_iff.mp hname).2
  rw [drawn_cloud hnames, List.forall₂_map_right_iff, List.forall₂_same]
  intro tag htag
  obtain ⟨count, hcount, hlisted, hnumber, hweight⟩ := htags tag htag
  have hle : count ≤ Record.greatestTagCount rs := by
    rw [hnumber]
    exact Finset.le_sup (f := (Record.allTags rs).count) (List.mem_toFinset.mpr hlisted)
  have hpos : 0 < Record.greatestTagCount rs :=
    (hnumber ▸ List.count_pos_iff.mpr hlisted : 0 < count).trans_le hle
  refine ⟨rfl, by rw [hcount, hnumber], ?_⟩
  rw [isBold_cloudStyle_iff, Weight.boldWeight_le_iff hle hpos h hweight, hcount]
  omega

/-- Four books with tags that occur four times, twice and once. -/
def taggedBooks : List Record := [
  { id := 1, title := "Iliad", tags := ["war", "sea"] },
  { id := 2, title := "Odyssey", tags := ["sea", "war", "art"] },
  { id := 3, title := "Aeneid", tags := ["war"] },
  { id := 4, title := "Pharsalia", tags := [" war"] }]

/-- A tag that occurs half as often as the most frequent one is bold, one that occurs less often is
not. -/
theorem cloud_isBold_taggedBooks :
    Record.greatestTagCount taggedBooks ≤ 2 ^ 50 ∧
      ∃ s text, Statistics.ofRecords taggedBooks = .ok s ∧
        (Report.statistics s).getLast? = some (.text text) ∧
        s.topTags.map WeightedTag.entry = [("war", 4), ("sea", 2), ("art", 1)] ∧
        text.drawn.map (fun piece => decide (IsBold piece.2)) = [true, true, false] := by
  have hgreatest : Record.greatestTagCount taggedBooks = 4 := by decide +kernel
  have hsmall : Record.greatestTagCount taggedBooks ≤ 2 ^ 50 := by
    rw [hgreatest]
    decide
  obtain ⟨s, text, hstatistics, htext, hdrawn⟩ := cloud_isBold hsmall
  have hentries : s.topTags.map WeightedTag.entry = [("war", 4), ("sea", 2), ("art", 1)] := by
    have htags : (Statistics.ofRecords taggedBooks).map (·.topTags.map WeightedTag.entry) =
        .ok [("war", 4), ("sea", 2), ("art", 1)] := by decide +kernel
    rw [hstatistics] at htags
    exact Except.ok.inj htags
  refine ⟨hsmall, s, text, hstatistics, htext, hentries, ?_⟩
  have hbold : List.Forall₂ (· = ·) (text.drawn.map fun piece => decide (IsBold piece.2))
      (s.topTags.map fun tag => decide (4 ≤ 2 * tag.entry.2)) := by
    rw [List.forall₂_map_left_iff, List.forall₂_map_right_iff]
    refine hdrawn.flip.imp fun piece tag h => ?_
    rw [decide_eq_decide, h.bold_iff, hgreatest]
    rfl
  rw [List.forall₂_eq_eq_eq] at hbold
  have hcounts := congrArg (List.map fun entry : String × Int => decide (4 ≤ 2 * entry.2)) hentries
  rw [List.map_map] at hcounts
  exact hbold.trans hcounts

end Report

end Catalogue
