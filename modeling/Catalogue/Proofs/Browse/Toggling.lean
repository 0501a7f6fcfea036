import Catalogue.Proofs.Browse.History
import Catalogue.Proofs.Selection.SelectedTags

/-!
# Toggling tags

Whatever is done with a browser, its selected tags have no blanks around them (`run_isTrimmed`), so
a tag is found among them however it is written.  Toggling it always changes the selection and thus
leads to the first page (`toggleTag_eq`).  Toggling it twice may move it behind the other tags and
drop its copies, but the tags are the same, and so are the results (`toggles_run`).
-/

namespace Catalogue

namespace Criteria

variable {c : Criteria} {tag : String}

/-- A tag that is not selected joins the others. -/
theorem toggleTag_of_notMem (h : Text.trim tag ∉ c.tags) :
    c.toggleTag tag = { c with tags := c.tags ++ [Text.trim tag] } := by
  simp [toggleTag, h]

/-- A selected tag leaves the others as they are. -/
theorem toggleTag_of_mem (h : Text.trim tag ∈ c.tags) :
    c.toggleTag tag = { c with tags := c.tags.filter (· ≠ Text.trim tag) } := by
  simp [toggleTag, h]

/-- A toggled tag is selected exactly when it was not. -/
theorem mem_toggleTag_iff : Text.trim tag ∈ (c.toggleTag tag).tags ↔ Text.trim tag ∉ c.tags := by
  by_cases h : Text.trim tag ∈ c.tags
  · simp [toggleTag_of_mem h, h]
  · simp [toggleTag_of_notMem h, h]

/-- So the selection changes. -/
theorem tags_toggleTag_ne (c : Criteria) (tag : String) : (c.toggleTag tag).tags ≠ c.tags := by
  intro hsame
  have hmem : Text.trim tag ∈ (c.toggleTag tag).tags ↔ Text.trim tag ∉ c.tags := mem_toggleTag_iff
  rw [hsame] at hmem
  exact iff_not_self hmem

/-- A tag that was not selected leaves no trace. -/
theorem toggleTag_toggleTag_of_notMem (h : Text.trim tag ∉ c.tags) :
    (c.toggleTag tag).toggleTag tag = c := by
  have hothers : c.tags.filter (· ≠ Text.trim tag) = c.tags :=
    List.filter_eq_self.mpr fun t ht => decide_eq_true (ne_of_mem_of_not_mem ht h)
  rw [toggleTag_of_mem (mem_toggleTag_iff.mpr h), toggleTag_of_notMem h]
  simp only [List.filter_append, hothers]
  simp

/-- A selected tag is moved behind the others. -/
theorem toggleTag_toggleTag_of_mem (h : Text.trim tag ∈ c.tags) :
    (c.toggleTag tag).toggleTag tag =
      { c with tags := c.tags.filter (· ≠ Text.trim tag) ++ [Text.trim tag] } := by
  rw [toggleTag_of_notMem (mem_toggleTag_iff.not.mpr (not_not.mpr h)), toggleTag_of_mem h]

/-- The tags are the same as before two toggles. -/
theorem mem_toggleTag_toggleTag_iff {t : String} :
    t ∈ ((c.toggleTag tag).toggleTag tag).tags ↔ t ∈ c.tags := by
  by_cases h : Text.trim tag ∈ c.tags
  · rw [toggleTag_toggleTag_of_mem h, List.mem_append, List.mem_filter, List.mem_singleton]
    by_cases ht : t = Text.trim tag
    · simp [ht, h]
    · simp [ht]
  · rw [toggleTag_toggleTag_of_notMem h]

/-- So is what they select. -/
theorem select_toggleTag_toggleTag (c : Criteria) (tag : String) (rs : List Record) :
    select rs ((c.toggleTag tag).toggleTag tag) = select rs c := by
  by_cases h : Text.trim tag ∈ c.tags
  · have hmem : ∀ t, t ∈ ((c.toggleTag tag).toggleTag tag).tags ↔ t ∈ c.tags :=
      fun _ => mem_toggleTag_toggleTag_iff
    rw [toggleTag_toggleTag_of_mem h] at hmem ⊢
    refine Selection.select_eq_of_sameTags (fun t => ?_) rs
    simp only [List.mem_map, hmem]
  · rw [toggleTag_toggleTag_of_notMem h]

/-- No selected tag has blanks around it. -/
def IsTrimmed (c : Criteria) : Prop :=
  ∀ t ∈ c.tags, Text.trim t = t

theorem isTrimmed_of_tags_eq_nil (h : c.tags = []) : c.IsTrimmed := by
  simp [IsTrimmed, h]

/-- Other tags are trimmed when they are selected. -/
theorem IsTrimmed.withChanges (h : c.IsTrimmed) (changes : Changes) :
    (c.withChanges changes).IsTrimmed := by
  intro t ht
  rw [Criteria.withChanges] at ht
  cases htags : changes.tags with
  | none =>
      rw [htags] at ht
      exact h t ht
  | some tags =>
      rw [htags] at ht
      obtain ⟨u, -, rfl⟩ := List.mem_map.mp ht
      exact Text.trim_trim u

/-- So is a tag that is toggled. -/
theorem IsTrimmed.toggleTag (h : c.IsTrimmed) (tag : String) : (c.toggleTag tag).IsTrimmed := by
  intro t ht
  by_cases hmem : Text.trim tag ∈ c.tags
  · rw [toggleTag_of_mem hmem] at ht
    exact h t (List.mem_of_mem_filter ht)
  · rw [toggleTag_of_notMem hmem] at ht
    rcases List.mem_append.mp ht with hold | hnew
    · exact h t hold
    · rw [List.mem_singleton.mp hnew, Text.trim_trim]

end Criteria

namespace Browser

/-- Every step leaves the selected tags trimmed. -/
theorem step_isTrimmed (b : Browser) (s : Step) (h : b.criteria.IsTrimmed) :
    (b.step s).criteria.IsTrimmed := by
  cases s with
  | update changes => exact h.withChanges changes
  | toggleTag tag => exact h.toggleTag tag
  | clearFilters => exact Criteria.isTrimmed_of_tags_eq_nil rfl
  | goTo page => exact h

/-- Whatever is done with a browser that has just been opened, its selected tags are trimmed. -/
theorem run_isTrimmed (query : Option String) (steps : List Step) :
    ((opened query).run steps).criteria.IsTrimmed := by
  refine run_invariant (P := fun b => b.criteria.IsTrimmed) step_isTrimmed ?_ steps
  cases query <;> exact Criteria.isTrimmed_of_tags_eq_nil rfl

/-- Toggling a tag leads to the first page. -/
theorem toggleTag_eq (b : Browser) (tag : String) :
    b.toggleTag tag = ⟨b.criteria.toggleTag tag, 1⟩ := by
  have hchanged : keepsPage b.criteria (b.criteria.toggleTag tag) = false := by
    rw [Bool.eq_false_iff, ne_eq, keepsPage_iff]
    exact fun hsame => Criteria.tags_toggleTag_ne _ _ hsame.tags.symm
  rw [toggleTag, withCriteria, hchanged]
  rfl

/-- What toggling a tag does with a browser. -/
structure Toggles (b : Browser) (tag : String) : Prop where
  /-- The tag is among the selected ones when any of them is the same but for blanks. -/
  selected_iff : Text.trim tag ∈ b.criteria.tags ↔
    ∃ t ∈ b.criteria.tags, Text.trim t = Text.trim tag
  /-- If it is not selected, it is put behind the others. -/
  selects : Text.trim tag ∉ b.criteria.tags →
    b.toggleTag tag = ⟨{ b.criteria with tags := b.criteria.tags ++ [Text.trim tag] }, 1⟩
  /-- If it is selected, all its copies are taken out. -/
  deselects : Text.trim tag ∈ b.criteria.tags →
    b.toggleTag tag =
      ⟨{ b.criteria with tags := b.criteria.tags.filter (· ≠ Text.trim tag) }, 1⟩
  /-- A tag that was not selected leaves no trace when it is toggled twice. -/
  restores : Text.trim tag ∉ b.criteria.tags →
    ((b.toggleTag tag).toggleTag tag).criteria = b.criteria
  /-- Toggled twice, every tag leaves the same tags selected. -/
  sameTags : ∀ t, t ∈ ((b.toggleTag tag).toggleTag tag).criteria.tags ↔ t ∈ b.criteria.tags
  /-- So it leaves the same results. -/
  sameResults : ∀ rs, select rs ((b.toggleTag tag).toggleTag tag).criteria = select rs b.criteria

/-- **Toggling tags.**  After any steps from a browser that has just been opened, no selected tag
has blanks around it.  Toggling a tag, however it is written, selects it or takes it out and leads
to the first page; toggling it twice brings back the same tags and the same results. -/
theorem toggles_run (query : Option String) (steps : List Step) (tag : String) :
    ((opened query).run steps).criteria.IsTrimmed ∧ Toggles ((opened query).run steps) tag := by
  have htrimmed := run_isTrimmed query steps
  generalize (opened query).run steps = b at htrimmed ⊢
  have htwice : ((b.toggleTag tag).toggleTag tag).criteria =
      (b.criteria.toggleTag tag).toggleTag tag := by
    rw [toggleTag_eq, toggleTag_eq]
  refine ⟨htrimmed, ?_⟩
  exact
    { selected_iff := by
        constructor
        · exact fun hmem => ⟨_, hmem, Text.trim_trim tag⟩
        · rintro ⟨t, ht, hsame⟩
          rwa [← hsame, htrimmed t ht]
      selects := fun hnew => by rw [toggleTag_eq, Criteria.toggleTag_of_notMem hnew]
      deselects := fun hold => by rw [toggleTag_eq, Criteria.toggleTag_of_mem hold]
      restores := fun hnew => htwice.trans (Criteria.toggleTag_toggleTag_of_notMem hnew)
      sameTags := fun t => by rw [htwice, Criteria.mem_toggleTag_toggleTag_iff]
      sameResults := fun rs => by rw [htwice, Criteria.select_toggleTag_toggleTag] }

/-- Two toggles can move a tag behind the others and drop its copies. -/
example : ((opened none).run [.update { tags := some [" a", "b", "a"] }, .toggleTag "a ",
    .toggleTag "a"]).criteria.tags = ["b", "a"] := by decide

end Browser

end Catalogue
