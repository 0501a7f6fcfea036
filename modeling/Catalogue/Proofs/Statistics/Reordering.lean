import Mathlib
import Catalogue.Proofs.Facet.Counting
import Catalogue.Proofs.Statistics.Summary

/-!
# Records in another order

Facets and statistics count what the records hold, so the order of the records decides no number.
Two orders of a list have tallies with the same entries (`Tally.IsTallyOf.perm`).  Ranked, these
differ only where counts are equal; so the counts of a table are the same row by row, and every name
that the cut at the end of the table does not affect stands in both tables
(`Tally.agreeAboveLast_top`).  The weights of tags are a matter of counts alone.
-/

namespace Catalogue

namespace Tally

/-- Tallies of two orders of a list have the same entries. -/
theorem IsTallyOf.perm {tally other : Tally} {counted counted' : List String}
    (h : tally.IsTallyOf counted) (hother : other.IsTallyOf counted')
    (hperm : counted.Perm counted') : tally.Perm other := by
  have hnodup : tally.Nodup := List.Nodup.of_map _ h.nodup
  have hnodup' : other.Nodup := List.Nodup.of_map _ hother.nodup
  rw [List.perm_ext_iff_of_nodup hnodup hnodup']
  intro entry
  rw [mem_iff_count_eq h.nodup, mem_iff_count_eq hother.nodup, h.mem_names, hother.mem_names,
    h.count_eq, hother.count_eq, hperm.mem_iff, hperm.count_eq]

/-- Sorted by name, tallies of two orders of a list are the same. -/
theorem byName_ofList_of_perm {counted counted' : List String} (hperm : counted.Perm counted') :
    (ofList counted).byName = (ofList counted').byName := by
  have hentries : (ofList counted).byName.Perm (ofList counted').byName :=
    ((isTallyOf_ofList counted).of_perm (byName_perm _)).perm
      ((isTallyOf_ofList counted').of_perm (byName_perm _)) hperm
  have hincreasing : ∀ l : List String, (ofList l).byName.Pairwise fun a b => a.1 < b.1 := by
    intro l
    exact List.pairwise_map.mp (pairwise_byName (isTallyOf_ofList l).nodup)
  refine hentries.eq_of_pairwise (fun a b _ _ hab hba => ?_) (hincreasing _) (hincreasing _)
  exact absurd hba (lt_asymm hab)

/-- The rows of a table with a greater count than the last one. -/
def aboveLast (table : List (String × Int)) : List (String × Int) :=
  table.filter fun row => (table.map (·.2)).getLast?.any (· < row.2)

/-- Two tables have the same counts in the same order, and above the last count the same rows. -/
structure AgreeAboveLast (table other : List (String × Int)) : Prop where
  counts_eq : table.map (·.2) = other.map (·.2)
  mem_iff : ∀ row, row ∈ aboveLast table ↔ row ∈ aboveLast other

theorem mem_aboveLast_iff {table : List (String × Int)} {row : String × Int} :
    row ∈ aboveLast table ↔
      row ∈ table ∧ ∃ last ∈ (table.map (·.2)).getLast?, last < row.2 := by
  rw [aboveLast, List.mem_filter, Option.any_eq_true]
  simp only [decide_eq_true_eq, Option.mem_def]

/-- Entries in descending order have the same counts, whatever the order of ties. -/
theorem map_snd_eq_of_perm {α : Type} [PartialOrder α] {ranking other : List (String × α)}
    (hperm : ranking.Perm other) (hranking : ranking.Pairwise fun a b => b.2 ≤ a.2)
    (hother : other.Pairwise fun a b => b.2 ≤ a.2) : ranking.map (·.2) = other.map (·.2) := by
  have hcounts : (ranking.map (·.2)).Perm (other.map (·.2)) := hperm.map _
  refine hcounts.eq_of_pairwise (fun a b _ _ hab hba => le_antisymm hba hab) ?_ ?_
  · exact List.pairwise_map.mpr hranking
  · exact List.pairwise_map.mpr hother

section Cut

variable {ranking other : List (String × Int)} (hperm : ranking.Perm other)
  (hranking : ranking.Pairwise fun a b => b.2 ≤ a.2) (hother : other.Pairwise fun a b => b.2 ≤ a.2)

include hperm hranking hother

/-- A row above the last count of one table stands in the other one: what the other one leaves out
comes after its last row, which has the same count. -/
theorem mem_take_of_mem_aboveLast {n : Nat} {row : String × Int}
    (hrow : row ∈ aboveLast (ranking.take n)) : row ∈ other.take n := by
  obtain ⟨hlisted, last, hlast, hgreater⟩ := mem_aboveLast_iff.mp hrow
  have hcounts := map_snd_eq_of_perm hperm hranking hother
  have hmem : row ∈ other.take n ++ other.drop n := by
    rw [List.take_append_drop]
    exact hperm.mem_iff.mp (List.mem_of_mem_take hlisted)
  rcases List.mem_append.mp hmem with hkept | hdropped
  · exact hkept
  · have hsame : last ∈ ((other.take n).map (·.2)).getLast? := by
      rwa [List.map_take, hcounts, ← List.map_take] at hlast
    obtain ⟨end', hend, rfl⟩ := List.mem_map.mp (List.mem_of_mem_getLast? hsame)
    rw [← List.take_append_drop n other, List.pairwise_append] at hother
    exact absurd (hother.2.2 end' hend row hdropped) (not_le.mpr hgreater)

/-- **Cutting a ranking.**  The first rows of two rankings agree above the last count. -/
theorem agreeAboveLast_take (n : Nat) : AgreeAboveLast (ranking.take n) (other.take n) := by
  have hcounts : (ranking.take n).map (·.2) = (other.take n).map (·.2) := by
    rw [List.map_take, List.map_take, map_snd_eq_of_perm hperm hranking hother]
  refine ⟨hcounts, fun row => ⟨fun hrow => ?_, fun hrow => ?_⟩⟩
  · have hlisted := mem_take_of_mem_aboveLast hperm hranking hother hrow
    rw [mem_aboveLast_iff, ← hcounts]
    exact ⟨hlisted, (mem_aboveLast_iff.mp hrow).2⟩
  · have hlisted := mem_take_of_mem_aboveLast hperm.symm hother hranking hrow
    rw [mem_aboveLast_iff, hcounts]
    exact ⟨hlisted, (mem_aboveLast_iff.mp hrow).2⟩

end Cut

/-- A ranking is in descending order with its counts as integers, too. -/
theorem pairwise_entries_ranked (tally : Tally) :
    tally.ranked.entries.Pairwise fun a b => b.2 ≤ a.2 := by
  rw [entries, List.pairwise_map]
  exact (isRankingOf_ranked tally).ordered.imp fun hle => Int.ofNat_le.mpr hle

/-- Names that are counted in another order have the same counts, in some order. -/
theorem entries_ranked_perm {counted counted' : List String} (hperm : counted.Perm counted') :
    (ofList counted).ranked.entries.Perm (ofList counted').ranked.entries :=
  ((isTallyOf_ranked counted).perm (isTallyOf_ranked counted') hperm).map _

/-- **Tables of the most frequent names** agree for two orders of a list. -/
theorem agreeAboveLast_top {counted counted' : List String} (hperm : counted.Perm counted')
    (limit : Int) :
    AgreeAboveLast ((ofList counted).top limit).entries ((ofList counted').top limit).entries := by
  rw [top_eq_take_ranked, top_eq_take_ranked, entries, entries, List.map_take, List.map_take]
  exact agreeAboveLast_take (entries_ranked_perm hperm) (pairwise_entries_ranked _)
    (pairwise_entries_ranked _) _

end Tally

/-- Tags with the same counts have the same weights. -/
theorem Weight.AreRelative.weights_eq {tags other : List WeightedTag} (h : AreRelative tags)
    (hother : AreRelative other) (hcounts : tags.map (·.count) = other.map (·.count)) :
    tags.map (·.weight) = other.map (·.weight) := by
  have hweights : ∀ {l : List WeightedTag}, AreRelative l → ∀ first ∈ (l.map (·.count)).head?,
      (l.map (·.weight)).map Except.ok =
        (l.map (·.count)).map fun count => ofCount count first := by
    intro l hl first hfirst
    rw [List.head?_map, Option.mem_map] at hfirst
    obtain ⟨tag, htag, rfl⟩ := hfirst
    rw [List.map_map, List.map_map]
    refine List.map_congr_left fun other hmem => ?_
    rw [Function.comp_apply, Function.comp_apply, (hl tag htag).2 other hmem]
  cases hhead : (tags.map (·.count)).head? with
  | none =>
      have hnil : tags.map (·.count) = [] := List.head?_eq_none_iff.mp hhead
      rw [hnil] at hcounts
      rw [List.map_eq_nil_iff.mp hnil, List.map_eq_nil_iff.mp hcounts.symm]
  | some first =>
      have hsame := (hweights h first hhead).trans
        ((congrArg _ hcounts).trans (hweights hother first (hcounts ▸ hhead)).symm)
      exact List.map_injective_iff.mpr (fun a b hab => Except.ok.inj hab) hsame

/-- Facets that differ in the order of tags with equal counts only. -/
structure Facets.AgreeUpToTies (f g : Facets) : Prop where
  formatCounts_eq : f.formatCounts = g.formatCounts
  /-- The same tags are listed. -/
  mem_tagCounts : ∀ tag, tag ∈ f.tagCounts.names ↔ tag ∈ g.tagCounts.names
  /-- Every tag has the same number. -/
  count_tagCounts : ∀ tag, f.tagCounts.count tag = g.tagCounts.count tag
  /-- The numbers are listed in the same order. -/
  counts_eq : f.tagCounts.map (·.2) = g.tagCounts.map (·.2)

/-- Statistics that differ in names with equal counts only, and in which of those that have the last
count of a table it lists. -/
structure Statistics.AgreeUpToTies (s t : Statistics) : Prop where
  totalBooks_eq : s.totalBooks = t.totalBooks
  uniqueAuthors_eq : s.uniqueAuthors = t.uniqueAuthors
  topLanguages : Tally.AgreeAboveLast s.topLanguages.entries t.topLanguages.entries
  topFormats : Tally.AgreeAboveLast s.topFormats.entries t.topFormats.entries
  topAuthors : Tally.AgreeAboveLast s.topAuthors.entries t.topAuthors.entries
  topTags : Tally.AgreeAboveLast (s.topTags.map WeightedTag.entry)
    (t.topTags.map WeightedTag.entry)
  weights_eq : s.topTags.map (·.weight) = t.topTags.map (·.weight)

variable {rs rs' : List Record}

/-- **Facets of reordered records.** -/
theorem Facets.agreeUpToTies_of_perm (h : rs.Perm rs') :
    (Facets.ofRecords rs).AgreeUpToTies (Facets.ofRecords rs') := by
  have htags : (rs.flatMap (·.cleanTags)).Perm (rs'.flatMap (·.cleanTags)) := h.flatMap_right _
  have htally := Facets.isTallyOf_tagCounts rs
  have htally' := Facets.isTallyOf_tagCounts rs'
  refine ⟨Tally.byName_ofList_of_perm (h.flatMap_right _), fun tag => ?_, fun tag => ?_, ?_⟩
  · rw [htally.mem_names, htally'.mem_names, htags.mem_iff]
  · rw [htally.count_eq, htally'.count_eq, htags.count_eq]
  · exact Tally.map_snd_eq_of_perm (htally.perm htally' htags)
      (Tally.isRankingOf_ranked _).ordered (Tally.isRankingOf_ranked _).ordered

/-- **Statistics of reordered records.** -/
theorem Statistics.exists_agreeUpToTies_of_perm (h : rs.Perm rs') :
    ∃ s t, Statistics.ofRecords rs = .ok s ∧ Statistics.ofRecords rs' = .ok t ∧
      s.AgreeUpToTies t := by
  obtain ⟨tags, hstatistics, hentries, hrelative⟩ := Statistics.exists_ofRecords rs
  obtain ⟨tags', hstatistics', hentries', hrelative'⟩ := Statistics.exists_ofRecords rs'
  have htable : Tally.AgreeAboveLast (tags.map WeightedTag.entry)
      (tags'.map WeightedTag.entry) := by
    rw [hentries, hentries']
    exact Tally.agreeAboveLast_top (h.flatMap_right _) 60
  have hauthors := (Tally.isTallyOf_ofList _).perm (Tally.isTallyOf_ofList _)
    (h.flatMap_right (·.authorList))
  refine ⟨_, _, hstatistics, hstatistics', ?_⟩
  constructor
  · exact h.length_eq
  · exact hauthors.length_eq
  · exact Tally.agreeAboveLast_top (h.flatMap_right _) 5
  · exact Tally.agreeAboveLast_top (h.flatMap_right _) 5
  · exact Tally.agreeAboveLast_top (h.flatMap_right _) 10
  · exact htable
  · have hcounts := htable.counts_eq
    rw [List.map_map, List.map_map] at hcounts
    exact hrelative.weights_eq hrelative' hcounts

/-- **Records in another order** have the same facets and the same statistics up to ties: the order
decides only how names with equal counts stand, and which of those with the last count of a table
are cut off. -/
theorem Statistics.ofRecords_perm (h : rs.Perm rs') :
    (Facets.ofRecords rs).AgreeUpToTies (Facets.ofRecords rs') ∧
      ∃ s t, Statistics.ofRecords rs = .ok s ∧ Statistics.ofRecords rs' = .ok t ∧
        s.AgreeUpToTies t :=
  ⟨Facets.agreeUpToTies_of_perm h, Statistics.exists_agreeUpToTies_of_perm h⟩

/-- Books in six languages, one more than a table lists; two of them are in English. -/
def polyglotShelf : List Record :=
  ["de", "en, fr", "it", "es", "pt", "en"].zipIdx.map fun (languages, id) =>
    { id, title := "Faust", languages }

/-- Backwards, the table of languages is filled up with other ones. -/
theorem Statistics.ofRecords_perm_backwards :
    polyglotShelf.Perm polyglotShelf.reverse ∧
      (Facets.ofRecords polyglotShelf).AgreeUpToTies (Facets.ofRecords polyglotShelf.reverse) ∧
      ∃ s t, Statistics.ofRecords polyglotShelf = .ok s ∧
        Statistics.ofRecords polyglotShelf.reverse = .ok t ∧ s.AgreeUpToTies t :=
  ⟨polyglotShelf.reverse_perm.symm, Statistics.ofRecords_perm polyglotShelf.reverse_perm.symm⟩

/-- Five of the six languages are listed, not the same ones. -/
example : ((Tally.ofList (polyglotShelf.flatMap (·.languageList))).top 5).names =
      ["en", "de", "fr", "it", "es"] ∧
    ((Tally.ofList (polyglotShelf.reverse.flatMap (·.languageList))).top 5).names =
      ["en", "pt", "es", "it", "fr"] := by
  decide +kernel

end Catalogue
