import Catalogue.Proofs.Facet.Counting
import Catalogue.Proofs.Selection.Formats

/-!
# Facets and filters

The numbers of the facets are what the filters leave.  A book is counted once for a format, however
often and in whatever letter case it names it, so the number of a format is that of the books that
the filter keeps (`Facets.FormatsAgree`).  A tag is counted wherever it stands.  Its number is at
least that of the books that the filter keeps, and larger exactly when a book has it twice
(`Facets.TagsAgree`).
-/

namespace Catalogue

/-- The formats that are not blank have a code. -/
theorem normalFormat_ne_empty_iff {format : String} :
    normalFormat format ≠ "" ↔ Text.isBlankText format = false := by
  have hempty : normalFormat format = "" ↔ Text.trim format = "" := by
    rw [normalFormat, Text.lower, String.ofList_eq_empty_iff, Text.lowerChars_eq_nil_iff,
      String.toList_eq_nil_iff]
  rw [ne_eq, hempty, Text.trim_eq_empty_iff, Bool.not_eq_true]

/-- A record names a format in some way. -/
def Record.Names (r : Record) (code : String) : Prop :=
  ∃ u ∈ r.formats, normalFormat u = code

instance (r : Record) (code : String) : Decidable (r.Names code) :=
  inferInstanceAs (Decidable (∃ u ∈ r.formats, _))

theorem Record.mem_formatCodes_iff {r : Record} {code : String} :
    code ∈ r.formatCodes ↔ r.Names code ∧ code ≠ "" := by
  simp [Record.formatCodes, Record.normalFormats, Record.Names, List.mem_eraseDups]

/-- A format is listed once for a record that names it. -/
theorem Record.count_formatCodes (r : Record) {code : String} (hne : code ≠ "") :
    r.formatCodes.count code = if r.Names code then 1 else 0 := by
  have hnodup : r.formatCodes.Nodup := nodup_eraseDups _
  rw [hnodup.count]
  exact if_congr (Record.mem_formatCodes_iff.trans (and_iff_left hne)) rfl rfl

/-- A format is counted once for every record that names it. -/
theorem count_flatMap_formatCodes (rs : List Record) {code : String} (hne : code ≠ "") :
    (rs.flatMap (·.formatCodes)).count code = rs.countP fun r => r.Names code := by
  induction rs with
  | nil => rfl
  | cons r rs ih =>
      rw [List.flatMap_cons, List.count_append, Record.count_formatCodes r hne, ih,
        List.countP_cons, Nat.add_comm]
      simp only [decide_eq_true_eq]

/-- The listed formats say how many books there are of each. -/
structure Facets.FormatsAgree (f : Facets) (rs : List Record) : Prop where
  /-- The listed codes are the normal forms of the formats that are not blank. -/
  listed : ∀ code, code ∈ f.formats ↔
    ∃ r ∈ rs, ∃ u ∈ r.formats, Text.isBlankText u = false ∧ normalFormat u = code
  /-- A code is counted once for every record that names it. -/
  counted : ∀ code ∈ f.formats, f.formatCounts.count code = rs.countP fun r => r.Names code
  /-- These are the records that the filter keeps, unless the code stands for all formats. -/
  filtered : ∀ code ∈ f.formats, code ≠ allFormats →
    f.formatCounts.count code = (Selection.byFormat rs code).length
  increasing : f.formats.Pairwise (· < ·)

/-- The formats that are listed are those of the books in normal form, without the blank ones. -/
theorem Facets.mem_formats_iff {rs : List Record} {code : String} :
    code ∈ (Facets.ofRecords rs).formats ↔
      ∃ r ∈ rs, ∃ u ∈ r.formats, Text.isBlankText u = false ∧ normalFormat u = code := by
  have hmem := (Facets.isTallyOf_formatCounts rs).mem_names code
  rw [Facets.formats, ← Tally.names, hmem]
  simp only [List.mem_flatMap, Record.mem_formatCodes_iff, Record.Names]
  constructor
  · rintro ⟨r, hr, ⟨u, hu, rfl⟩, hne⟩
    exact ⟨r, hr, u, hu, normalFormat_ne_empty_iff.mp hne, rfl⟩
  · rintro ⟨r, hr, u, hu, hblank, rfl⟩
    exact ⟨r, hr, ⟨u, hu, rfl⟩, normalFormat_ne_empty_iff.mpr hblank⟩

/-- The filter by a code in normal form keeps the records that name it. -/
theorem Selection.length_byFormat (rs : List Record) {code : String}
    (hnormal : normalFormat code = code) (hall : code ≠ allFormats) :
    (byFormat rs code).length = rs.countP fun r => r.Names code := by
  rw [byFormat_eq, ← List.countP_eq_length_filter]
  refine List.countP_congr fun r _ => ?_
  rw [decide_eq_true_eq, decide_eq_true_eq, Record.IsAvailable, hnormal]
  exact or_iff_right hall

/-- **Formats in facets and filters.** -/
theorem Facets.formatsAgree_ofRecords (rs : List Record) :
    (Facets.ofRecords rs).FormatsAgree rs := by
  have hcounted : ∀ code ∈ (Facets.ofRecords rs).formats,
      (Facets.ofRecords rs).formatCounts.count code = rs.countP fun r => r.Names code := by
    intro code hlisted
    obtain ⟨r, -, u, -, hblank, rfl⟩ := Facets.mem_formats_iff.mp hlisted
    have hne := normalFormat_ne_empty_iff.mpr hblank
    rw [(Facets.isTallyOf_formatCounts rs).count_eq, count_flatMap_formatCodes rs hne]
  refine ⟨fun code => Facets.mem_formats_iff, hcounted, fun code hlisted hall => ?_, ?_⟩
  · obtain ⟨r, -, u, -, -, rfl⟩ := Facets.mem_formats_iff.mp hlisted
    rw [hcounted _ hlisted, Selection.length_byFormat rs (normalFormat_normalFormat u) hall]
  · exact Tally.pairwise_byName (Tally.isTallyOf_ofList _).nodup

/-- The trimmed tags of a list of records, position by position, blank ones included. -/
def trimmedTags (rs : List Record) : List String :=
  rs.flatMap fun r => r.tags.map Text.trim

theorem mem_trimmedTags_iff {rs : List Record} {tag : String} :
    tag ∈ trimmedTags rs ↔ ∃ r ∈ rs, ∃ u ∈ r.tags, Text.trim u = tag := by
  simp [trimmedTags]

/-- The positions of a tag, record by record. -/
theorem count_trimmedTags (rs : List Record) (tag : String) :
    (trimmedTags rs).count tag = (rs.map fun r => (r.tags.map Text.trim).count tag).sum :=
  List.count_flatMap

/-- The tags of the books are the trimmed ones, without the blank ones. -/
theorem flatMap_cleanTags (rs : List Record) :
    rs.flatMap (·.cleanTags) = (trimmedTags rs).filter (· ≠ "") := by
  rw [trimmedTags, List.filter_flatMap]
  rfl

section Sums

variable {α : Type} (k : α → Nat)

/-- Positive terms are no more than the sum. -/
theorem countP_pos_le_sum (l : List α) : l.countP (fun a => 0 < k a) ≤ (l.map k).sum := by
  induction l with
  | nil => exact Nat.le_refl 0
  | cons a l ih =>
      rw [List.countP_cons, List.map_cons, List.sum_cons]
      split
      · next hpos =>
          rw [decide_eq_true_eq] at hpos
          omega
      · omega

/-- They are as many as the sum when no term is larger than one. -/
theorem sum_eq_countP_pos_iff (l : List α) :
    (l.map k).sum = l.countP (fun a => 0 < k a) ↔ ∀ a ∈ l, k a ≤ 1 := by
  induction l with
  | nil => simp
  | cons a l ih =>
      have hrest := countP_pos_le_sum k l
      rw [List.forall_mem_cons, ← ih, List.countP_cons, List.map_cons, List.sum_cons]
      split
      · next hpos =>
          rw [decide_eq_true_eq] at hpos
          omega
      · next hzero =>
          rw [decide_eq_true_eq] at hzero
          omega

end Sums

/-- The listed tags say how often each occurs. -/
structure Facets.TagsAgree (f : Facets) (rs : List Record) : Prop where
  /-- The listed tags are the trimmed tags that are not blank. -/
  listed : ∀ tag, tag ∈ f.tagCounts.names ↔
    tag ∈ trimmedTags rs ∧ Text.isBlankText tag = false
  /-- A tag is counted at every position where it stands. -/
  counted : ∀ tag ∈ f.tagCounts.names, f.tagCount tag = (trimmedTags rs).count tag
  /-- The filter by a listed tag keeps some of the records, no more than are counted. -/
  filtered : ∀ tag ∈ f.tagCounts.names, ∀ logic,
    0 < (Selection.byTags rs [tag] logic).length ∧
      (Selection.byTags rs [tag] logic).length ≤ f.tagCount tag
  /-- It keeps as many as are counted exactly when no record has the tag twice. -/
  repeated : ∀ tag ∈ f.tagCounts.names, ∀ logic,
    f.tagCount tag = (Selection.byTags rs [tag] logic).length ↔
      ∀ r ∈ rs, (r.tags.map Text.trim).count tag ≤ 1
  /-- Tags are listed by descending count, and those with equal counts by first occurrence. -/
  ranked : f.tagCounts.names.Pairwise fun a b => f.tagCount b < f.tagCount a ∨
    f.tagCount b = f.tagCount a ∧ (trimmedTags rs).idxOf a < (trimmedTags rs).idxOf b

/-- The filter by a trimmed tag keeps the records that have it. -/
theorem Selection.length_byTags_singleton (rs : List Record) {tag : String}
    (htrim : Text.trim tag = tag) (logic : TagLogic) :
    (byTags rs [tag] logic).length = rs.countP fun r => 0 < (r.tags.map Text.trim).count tag := by
  rw [byTags_eq, ← List.countP_eq_length_filter]
  refine List.countP_congr fun r _ => ?_
  rw [decide_eq_true_eq, decide_eq_true_eq, List.count_pos_iff]
  cases logic <;> simp [Record.Carries, Record.HasTag, htrim]

/-- It keeps no more records than the tag has positions, and as many exactly when no record has the
tag twice. -/
theorem Selection.length_byTags_le (rs : List Record) {tag : String} (htrim : Text.trim tag = tag)
    (logic : TagLogic) :
    (byTags rs [tag] logic).length ≤ (trimmedTags rs).count tag ∧
      ((trimmedTags rs).count tag = (byTags rs [tag] logic).length ↔
        ∀ r ∈ rs, (r.tags.map Text.trim).count tag ≤ 1) := by
  rw [count_trimmedTags, length_byTags_singleton rs htrim]
  exact ⟨countP_pos_le_sum _ rs, sum_eq_countP_pos_iff _ rs⟩

section Listed

variable {rs : List Record} {tag : String}

/-- The number of a listed tag is that of the positions where it stands. -/
theorem Facets.tagCount_of_listed (h : tag ∈ (Facets.ofRecords rs).tagCounts.names) :
    (Facets.ofRecords rs).tagCount tag = (trimmedTags rs).count tag := by
  have hne : tag ≠ "" := (Facets.mem_tagCounts_iff.mp h).2
  rw [Facets.tagCount, Facets.trim_of_mem_tagCounts h, (Facets.isTallyOf_tagCounts rs).count_eq,
    flatMap_cleanTags, List.count_filter (by simpa using hne)]

/-- What stands in an entry is the number of its tag. -/
theorem Facets.tagCount_of_mem {entry : String × Nat}
    (h : entry ∈ (Facets.ofRecords rs).tagCounts) :
    (Facets.ofRecords rs).tagCount entry.1 = entry.2 := by
  have hlisted : entry.1 ∈ (Facets.ofRecords rs).tagCounts.names := List.mem_map_of_mem h
  rw [Facets.tagCount, Facets.trim_of_mem_tagCounts hlisted,
    Tally.count_of_mem (Facets.isTallyOf_tagCounts rs).nodup h]

end Listed

/-- **Tags in facets and filters.** -/
theorem Facets.tagsAgree_ofRecords (rs : List Record) : (Facets.ofRecords rs).TagsAgree rs where
  listed tag := by
    rw [Facets.mem_tagCounts_iff, mem_trimmedTags_iff]
    refine and_congr_right fun hstands => ?_
    obtain ⟨r, -, u, -, hsame⟩ := hstands
    have htrim : Text.trim tag = tag := by rw [← hsame, Text.trim_trim]
    rw [← Bool.not_eq_true, ← Text.trim_eq_empty_iff, htrim]
  counted tag hlisted := Facets.tagCount_of_listed hlisted
  filtered tag hlisted logic := by
    have htrim := Facets.trim_of_mem_tagCounts hlisted
    have hsome : 0 < (Selection.byTags rs [tag] logic).length := by
      obtain ⟨⟨r, hr, u, hu, hsame⟩, -⟩ := Facets.mem_tagCounts_iff.mp hlisted
      rw [Selection.length_byTags_singleton rs htrim, List.countP_pos_iff]
      refine ⟨r, hr, decide_eq_true (List.count_pos_iff.mpr ?_)⟩
      exact List.mem_map.mpr ⟨u, hu, hsame⟩
    rw [Facets.tagCount_of_listed hlisted]
    exact ⟨hsome, (Selection.length_byTags_le rs htrim logic).1⟩
  repeated tag hlisted logic := by
    have htrim := Facets.trim_of_mem_tagCounts hlisted
    rw [Facets.tagCount_of_listed hlisted]
    exact (Selection.length_byTags_le rs htrim logic).2
  ranked := by
    rw [Tally.names, List.pairwise_map]
    have hranked := Tally.pairwise_ranked (rs.flatMap (·.cleanTags))
    refine hranked.imp_of_mem fun {a b} ha hb hab => ?_
    have hname : ∀ entry ∈ (Facets.ofRecords rs).tagCounts, decide (entry.1 ≠ "") = true :=
      fun entry hentry =>
        decide_eq_true (Facets.mem_tagCounts_iff.mp (List.mem_map_of_mem hentry)).2
    rw [flatMap_cleanTags] at hab
    rw [Facets.tagCount_of_mem ha, Facets.tagCount_of_mem hb]
    rcases hab with hless | ⟨htie, hfirst⟩
    · exact Or.inl hless
    · exact Or.inr ⟨htie, idxOf_lt_of_filter (hname a ha) (hname b hb) hfirst⟩

/-- **Facets and filters agree.**  What facets list of formats and tags, and how often, is what the
filters by format and by tag keep. -/
theorem Facets.agree_ofRecords (rs : List Record) :
    (Facets.ofRecords rs).FormatsAgree rs ∧ (Facets.ofRecords rs).TagsAgree rs :=
  ⟨Facets.formatsAgree_ofRecords rs, Facets.tagsAgree_ofRecords rs⟩

end Catalogue
