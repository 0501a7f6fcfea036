import Catalogue.Facet
import Catalogue.Proofs.Tally
import Catalogue.Proofs.Text.Trimming

/-!
# What facets list

The facets of a library are tallies of its tags and of its formats, ranked or in order.  They list
the trimmed tags of the records, blank ones left out (`Facets.mem_tagCounts_iff`).
-/

namespace Catalogue

/-- The tags of a book are trimmed, and those that are blank are left out. -/
theorem Record.mem_cleanTags_iff {r : Record} {tag : String} :
    tag ∈ r.cleanTags ↔ (∃ u ∈ r.tags, Text.trim u = tag) ∧ tag ≠ "" := by
  simp [Record.cleanTags]

/-- The listed tags are a tally of the trimmed tags of the records. -/
theorem Facets.isTallyOf_tagCounts (rs : List Record) :
    (Facets.ofRecords rs).tagCounts.IsTallyOf (rs.flatMap (·.cleanTags)) :=
  (Tally.isTallyOf_ofList _).of_perm (Tally.ranked_perm _)

/-- The listed formats are a tally of the formats of the records. -/
theorem Facets.isTallyOf_formatCounts (rs : List Record) :
    (Facets.ofRecords rs).formatCounts.IsTallyOf (rs.flatMap (·.formatCodes)) :=
  (Tally.isTallyOf_ofList _).of_perm (Tally.byName_perm _)

/-- The tags that facets list are the trimmed tags of the records, blank ones left out. -/
theorem Facets.mem_tagCounts_iff {rs : List Record} {tag : String} :
    tag ∈ (Facets.ofRecords rs).tagCounts.names ↔
      (∃ r ∈ rs, ∃ u ∈ r.tags, Text.trim u = tag) ∧ tag ≠ "" := by
  rw [(Facets.isTallyOf_tagCounts rs).mem_names]
  simp only [List.mem_flatMap, Record.mem_cleanTags_iff]
  exact ⟨fun ⟨r, hr, hu, hne⟩ => ⟨⟨r, hr, hu⟩, hne⟩, fun ⟨⟨r, hr, hu⟩, hne⟩ => ⟨r, hr, hu, hne⟩⟩

/-- The tags that facets list are trimmed. -/
theorem Facets.trim_of_mem_tagCounts {rs : List Record} {tag : String}
    (h : tag ∈ (Facets.ofRecords rs).tagCounts.names) : Text.trim tag = tag := by
  obtain ⟨⟨r, -, u, -, rfl⟩, -⟩ := Facets.mem_tagCounts_iff.mp h
  exact Text.trim_trim u

/-- A book about which nothing is known but a tag. -/
def bareBook (tag : String) : Record :=
  { id := 1, title := "", tags := [tag] }

/-- A trimmed tag is listed for the bare book that has it. -/
theorem mem_tagCounts_bareBook {tag : String} (htrim : Text.trim tag = tag) (hne : tag ≠ "") :
    tag ∈ (Facets.ofRecords [bareBook tag]).tagCounts.names :=
  Facets.mem_tagCounts_iff.mpr
    ⟨⟨_, List.mem_singleton_self _, tag, List.mem_singleton_self tag, htrim⟩, hne⟩

end Catalogue
