import Mathlib
import Catalogue.Proofs.Facet.Agreement
import Catalogue.Proofs.Statistics.Summary

/-!
# Statistics and facets

Statistics and facets count the same tags, one selecting the most frequent ones and the other
ranking all of them, and they list them alike (`Statistics.topTags_eq_take_tagCounts`).  They do not
count the same formats.  Statistics count a format wherever it stands, facets once for every book
that is available in it, and only statistics count blank formats.  So the numbers are the same
exactly when no format in the table is blank or repeated in a book
(`Statistics.topFormats_agree_iff`).
-/

namespace Catalogue

/-- A format has positions in a record that names it. -/
theorem Record.count_normalFormats_pos_iff {r : Record} {code : String} :
    0 < r.normalFormats.count code ↔ r.Names code := by
  rw [List.count_pos_iff, Record.normalFormats, List.mem_map]
  rfl

/-- A code in normal form is named by the records that are available in it. -/
theorem Record.names_iff_hasFormat {r : Record} {code : String}
    (hnormal : normalFormat code = code) : r.Names code ↔ r.hasFormat code = true := by
  rw [Selection.hasFormat_iff, hnormal]
  rfl

/-- The positions of a format, record by record. -/
theorem count_flatMap_normalFormats (rs : List Record) (code : String) :
    (rs.flatMap (·.normalFormats)).count code = (rs.map (·.normalFormats.count code)).sum :=
  List.count_flatMap

/-- The number of a format that is not blank is that of the books available in it. -/
theorem Facets.count_formatCounts (rs : List Record) {code : String} (hne : code ≠ "") :
    (Facets.ofRecords rs).formatCounts.count code = rs.countP fun r => r.Names code := by
  rw [(Facets.isTallyOf_formatCounts rs).count_eq, count_flatMap_formatCodes rs hne]

/-- A format has at least as many positions as there are books available in it, and as many exactly
when no book repeats it. -/
theorem Facets.count_formatCounts_le (rs : List Record) {code : String} (hne : code ≠ "") :
    (Facets.ofRecords rs).formatCounts.count code ≤ (rs.flatMap (·.normalFormats)).count code ∧
      ((rs.flatMap (·.normalFormats)).count code =
          (Facets.ofRecords rs).formatCounts.count code ↔
        ∀ r ∈ rs, r.normalFormats.count code ≤ 1) := by
  have hbooks : (rs.countP fun r => r.Names code) =
      rs.countP fun r => 0 < r.normalFormats.count code := by
    refine List.countP_congr fun r _ => ?_
    rw [decide_eq_true_eq, decide_eq_true_eq, Record.count_normalFormats_pos_iff]
  rw [Facets.count_formatCounts rs hne, hbooks, count_flatMap_normalFormats]
  exact ⟨countP_pos_le_sum _ rs, sum_eq_countP_pos_iff _ rs⟩

/-- A format that some record names is listed unless it is blank. -/
theorem Facets.mem_formats_iff_ne_empty {rs : List Record} {code : String}
    (h : code ∈ rs.flatMap (·.normalFormats)) :
    code ∈ (Facets.ofRecords rs).formatCounts.names ↔ code ≠ "" := by
  obtain ⟨r, hr, hcode⟩ := List.mem_flatMap.mp h
  have hnamed : r.Names code := Record.count_normalFormats_pos_iff.mp (List.count_pos_iff.mpr hcode)
  rw [(Facets.isTallyOf_formatCounts rs).mem_names, List.mem_flatMap]
  constructor
  · rintro ⟨other, -, hlisted⟩
    exact (Record.mem_formatCodes_iff.mp hlisted).2
  · intro hne
    exact ⟨r, hr, Record.mem_formatCodes_iff.mpr ⟨hnamed, hne⟩⟩

namespace Statistics

/-- **Tags in statistics and facets.**  The most frequent tags are the first ones that facets list,
with the same counts. -/
theorem topTags_eq_take_tagCounts (rs : List Record) :
    ∃ s, ofRecords rs = .ok s ∧
      s.topTags.map WeightedTag.entry =
        Tally.entries ((Facets.ofRecords rs).tagCounts.take 60) := by
  obtain ⟨tags, hstatistics, hentries, -⟩ := exists_ofRecords rs
  refine ⟨_, hstatistics, ?_⟩
  rw [hentries, Tally.top_eq_take_ranked]
  rfl

/-- The facets list the formats of the table with the same numbers, which are those of the books
available in them. -/
def FormatsAgree (s : Statistics) (rs : List Record) : Prop :=
  ∀ row ∈ s.topFormats, row ∈ (Facets.ofRecords rs).formatCounts ∧
    row.2 = rs.countP fun r => r.hasFormat row.1

/-- A row of a table of formats is listed by the facets exactly when its format is not blank and no
book repeats it. -/
theorem mem_formatCounts_iff {rs : List Record} {row : String × Nat}
    (hrow : row.1 ∈ rs.flatMap (·.normalFormats))
    (hcount : row.2 = (rs.flatMap (·.normalFormats)).count row.1) :
    row ∈ (Facets.ofRecords rs).formatCounts ↔
      row.1 ≠ "" ∧ ∀ r ∈ rs, r.normalFormats.count row.1 ≤ 1 := by
  rw [Tally.mem_iff_count_eq (Facets.isTallyOf_formatCounts rs).nodup,
    Facets.mem_formats_iff_ne_empty hrow, hcount]
  exact and_congr_right fun hne => (Facets.count_formatCounts_le rs hne).2

/-- The format of a row is in normal form, and so it counts the books available in it. -/
theorem countP_hasFormat {rs : List Record} {code : String}
    (hcode : code ∈ rs.flatMap (·.normalFormats)) (hne : code ≠ "") :
    (Facets.ofRecords rs).formatCounts.count code = rs.countP fun r => r.hasFormat code := by
  obtain ⟨r, -, hcode⟩ := List.mem_flatMap.mp hcode
  obtain ⟨format, -, rfl⟩ := List.mem_map.mp hcode
  rw [Facets.count_formatCounts rs hne]
  refine List.countP_congr fun r _ => ?_
  rw [decide_eq_true_eq, Record.names_iff_hasFormat (normalFormat_normalFormat format)]

/-- **Formats in statistics and facets.**  The numbers of formats agree exactly when no format in
the table is blank and no book repeats one.  Otherwise statistics count too much: facets list every
format of the table that is not blank, and no book more than once. -/
theorem topFormats_agree_iff (rs : List Record) :
    ∃ s, ofRecords rs = .ok s ∧
      (s.FormatsAgree rs ↔
        ∀ row ∈ s.topFormats, row.1 ≠ "" ∧ ∀ r ∈ rs, r.normalFormats.count row.1 ≤ 1) ∧
      ∀ row ∈ s.topFormats, row.1 ≠ "" →
        row.1 ∈ (Facets.ofRecords rs).formats ∧
          (Facets.ofRecords rs).formatCounts.count row.1 =
            (rs.countP fun r => r.hasFormat row.1) ∧
          (Facets.ofRecords rs).formatCounts.count row.1 ≤ row.2 := by
  obtain ⟨tags, hstatistics, -, -⟩ := exists_ofRecords rs
  have hcounts := (Tally.isTopOf_top (rs.flatMap (·.normalFormats)) 5).counts
  refine ⟨_, hstatistics, ⟨fun hagree row hrow => ?_, fun hproper row hrow => ?_⟩,
    fun row hrow hne => ?_⟩
  · obtain ⟨hcode, hcount⟩ := hcounts row hrow
    exact (mem_formatCounts_iff hcode hcount).mp (hagree row hrow).1
  · obtain ⟨hcode, hcount⟩ := hcounts row hrow
    have hlisted := (mem_formatCounts_iff hcode hcount).mpr (hproper row hrow)
    refine ⟨hlisted, ?_⟩
    rw [← countP_hasFormat hcode (hproper row hrow).1]
    exact (Tally.count_of_mem (Facets.isTallyOf_formatCounts rs).nodup hlisted).symm
  · obtain ⟨hcode, hcount⟩ := hcounts row hrow
    refine ⟨(Facets.mem_formats_iff_ne_empty hcode).mpr hne, countP_hasFormat hcode hne, ?_⟩
    rw [hcount]
    exact (Facets.count_formatCounts_le rs hne).1

/-- A book that names one format in two ways, and a blank one. -/
def repeatingBook : Record :=
  { id := 1, title := "Dune", formats := ["EPUB", " epub", ""] }

/-- The format of one book is counted twice, and a blank format is counted. -/
theorem topFormats_repeated :
    ∃ s, ofRecords [repeatingBook] = .ok s ∧ s.topFormats = [("epub", 2), ("", 1)] ∧
      (Facets.ofRecords [repeatingBook]).formatCounts = [("epub", 1)] ∧
      ¬ s.FormatsAgree [repeatingBook] := by
  obtain ⟨tags, hstatistics, -, -⟩ := exists_ofRecords [repeatingBook]
  have htop : (Tally.ofList ([repeatingBook].flatMap (·.normalFormats))).top 5 =
      [("epub", 2), ("", 1)] := by decide +kernel
  have hfacets : (Facets.ofRecords [repeatingBook]).formatCounts = [("epub", 1)] := by
    decide +kernel
  refine ⟨_, hstatistics, htop, hfacets, fun hagree => ?_⟩
  have hrow : ("epub", 2) ∈ [("epub", 2), ("", 1)] := List.mem_cons_self
  have hlisted := (hagree ("epub", 2) (htop ▸ hrow)).1
  rw [hfacets] at hlisted
  exact absurd hlisted (by decide)

end Statistics

end Catalogue
