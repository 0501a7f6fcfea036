import Catalogue.Proofs.Selection.Filtering
import Catalogue.Proofs.Text.Trimming

/-!
# How a format is written

Whether a record has a format depends on the code in normal form, and taking the normal form again
changes nothing (`normalFormat_normalFormat`).  The word that selects all formats is another matter:
it is recognised as it is written, before anything is trimmed or put in lower case.  So two ways to
write a format select the same records exactly when both or neither of them is that word, or when
all records have a format of that name (`Selection.byFormat_eq_iff`).
-/

namespace Catalogue

/-- **Format codes in normal form** are left as they are. -/
@[simp] theorem normalFormat_normalFormat (format : String) :
    normalFormat (normalFormat format) = normalFormat format := by
  have htrimmed := (Text.isTrimmed_trimChars format.toList).lowerChars
  have htrim : Text.trim (Text.lower (Text.trim format)) = Text.lower (Text.trim format) := by
    rw [Text.trim, Text.lower, Text.trim, String.toList_ofList, String.toList_ofList,
      htrimmed.trimChars_eq]
  rw [normalFormat, normalFormat, htrim, Text.lower_lower]

theorem normalFormat_allFormats : normalFormat allFormats = allFormats := by
  cbv

namespace Selection

variable {f g : String}

/-- A record has a format however its code is written. -/
theorem hasFormat_congr (h : normalFormat f = normalFormat g) (r : Record) :
    r.hasFormat f = r.hasFormat g := by
  rw [Record.hasFormat, Record.hasFormat, h]

/-- A book is available in all formats, or in one that it has. -/
theorem isAvailable_iff {r : Record} :
    r.IsAvailable f ↔ f = allFormats ∨ r.hasFormat f = true := by
  rw [Record.IsAvailable, hasFormat_iff]

/-- Two ways to write a format mean the same for some records: both or neither is the word for all
formats, or it makes no difference. -/
def SameFormat (f g : String) (rs : List Record) : Prop :=
  (f = allFormats ↔ g = allFormats) ∨ ∀ r ∈ rs, r.hasFormat f = true

theorem SameFormat.of_subset {rs matching : List Record} (h : SameFormat f g rs)
    (hsubset : matching ⊆ rs) : SameFormat f g matching :=
  h.imp_right fun hall r hr => hall r (hsubset hr)

/-- **Formats** that are written differently select the same records exactly when they mean the
same. -/
theorem byFormat_eq_iff (h : normalFormat f = normalFormat g) {rs : List Record} :
    byFormat rs f = byFormat rs g ↔ SameFormat f g rs := by
  have havailable : byFormat rs f = byFormat rs g ↔
      ∀ r ∈ rs, (r.IsAvailable f ↔ r.IsAvailable g) := by
    rw [byFormat_eq, byFormat_eq]
    constructor
    · intro hsame r hr
      have hmem : r ∈ rs.filter (·.IsAvailable f) ↔ r ∈ rs.filter (·.IsAvailable g) := by
        rw [hsame]
      simpa [hr] using hmem
    · intro hsame
      exact List.filter_congr fun r hr => decide_eq_decide.mpr (hsame r hr)
  simp only [havailable, isAvailable_iff, hasFormat_congr h, SameFormat]
  by_cases hf : f = allFormats <;> by_cases hg : g = allFormats <;> simp [hf, hg]

/-- The normal form of a format selects the same records, unless it is the word for all formats. -/
theorem byFormat_normalFormat (h : normalFormat f ≠ allFormats) (rs : List Record) :
    byFormat rs (normalFormat f) = byFormat rs f := by
  have hword : f ≠ allFormats := by
    intro hall
    apply h
    rw [hall, normalFormat_allFormats]
  exact (byFormat_eq_iff (normalFormat_normalFormat f)).mpr (.inl (iff_of_false h hword))

/-- The records that match a query are among all records. -/
theorem subset_of_byQuery {rs matching : List Record} {query : String}
    (h : byQuery rs query = .ok matching) : matching ⊆ rs := by
  unfold byQuery at h
  split at h
  · rw [Except.ok.inj h]
    exact List.Subset.refl _
  · obtain ⟨q, -, rfl⟩ := map_eq_ok_iff.mp h
    exact List.filter_subset_self _

/-- A stage that leaves the same records leaves the rest of a selection alone. -/
theorem select_eq_of_sameFormat (h : normalFormat f = normalFormat g) {rs : List Record}
    (hsame : SameFormat f g rs) (c : Criteria) :
    select rs { c with format := f } = select rs { c with format := g } := by
  simp only [select, narrow]
  cases hquery : byQuery rs c.query with
  | error e => rfl
  | ok matching =>
      have hstage : byFormat matching f = byFormat matching g :=
        (byFormat_eq_iff h).mpr (hsame.of_subset (subset_of_byQuery hquery))
      simp only [Except.map, hstage]

/-- **How a format is written** makes a difference only for the word that selects all formats.  Two
ways to write a format that agree in normal form keep the same records exactly when both or neither
of them is that word, or all records have such a format.  Then they select the same records. -/
theorem format_spelling (h : normalFormat f = normalFormat g) (rs : List Record) :
    (byFormat rs f = byFormat rs g ↔ SameFormat f g rs) ∧
      (SameFormat f g rs → ∀ c : Criteria,
        select rs { c with format := f } = select rs { c with format := g }) :=
  ⟨byFormat_eq_iff h, select_eq_of_sameFormat h⟩

/-- A final sigma, blanks, and a format that no record has. -/
theorem format_spelling_sigma :
    normalFormat " ΑΣ" = normalFormat "ας\t" ∧
      byFormat [{ id := 1, title := "Dune", formats := ["Ας "] }, { id := 2, title := "Emma" }]
          " ΑΣ" =
        byFormat [{ id := 1, title := "Dune", formats := ["Ας "] }, { id := 2, title := "Emma" }]
          "ας\t" := by
  have hnormal : normalFormat " ΑΣ" = normalFormat "ας\t" := by decide +kernel
  exact ⟨hnormal, (format_spelling hnormal _).1.mpr (.inl (by decide))⟩

/-- The word for all formats in capital letters is the name of a format. -/
theorem byFormat_capital_all :
    normalFormat "ALL" = normalFormat "all" ∧
      byFormat [{ id := 1, title := "Dune" }] "ALL" ≠
        byFormat [{ id := 1, title := "Dune" }] "all" := by
  have hnormal : normalFormat "ALL" = normalFormat "all" := by cbv
  refine ⟨hnormal, fun hsame => ?_⟩
  rcases (byFormat_eq_iff hnormal).mp hsame with hword | hall
  · exact absurd (hword.mpr rfl) (by decide)
  · have hnone := hall _ List.mem_cons_self
    cases hnone

end Selection

end Catalogue
