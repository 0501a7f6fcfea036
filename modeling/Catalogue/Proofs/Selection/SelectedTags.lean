import Catalogue.Proofs.Selection.Filtering
import Catalogue.Proofs.Text.Trimming

/-!
# One more selected tag

A filter that admits less leaves fewer records, in the same order: it makes no difference whether
they are left out before sorting or after it (`sorted_filter_sublist`).  So one more tag of which
all are wanted narrows a selection, and one more of which any is wanted widens it, once there is a
tag at all (`select_one_more_tag`).  What is selected depends on the set of the trimmed tags only
(`select_eq_of_sameTags`), so it makes no difference in which order they are given, how often, and
with which blanks around them.
-/

namespace Catalogue

/-- A record has a tag exactly when the trimmed tag is among its own, trimmed. -/
theorem Record.hasTag_iff {r : Record} {t : String} :
    r.HasTag t ↔ Text.trim t ∈ r.tags.map Text.trim :=
  List.mem_map.symm

/-- A record that carries all of some tags carries all of the first ones. -/
theorem Record.Carries.of_append {r : Record} {tags more : List String}
    (h : r.Carries .all (tags ++ more)) : r.Carries .all tags := by
  rcases h with hnone | hall
  · exact Or.inl (List.append_eq_nil_iff.mp hnone).1
  · exact Or.inr fun t ht => hall t (List.mem_append_left more ht)

/-- A record that carries any of some tags carries any of these and more. -/
theorem Record.Carries.append {r : Record} {tags : List String} (hne : tags ≠ [])
    (h : r.Carries .any tags) (more : List String) : r.Carries .any (tags ++ more) := by
  obtain ⟨t, ht, hcarried⟩ := h.resolve_left hne
  exact Or.inr ⟨t, List.mem_append_left more ht, hcarried⟩

namespace Selection

/-- Leaving records out before sorting is leaving them out after it. -/
theorem sorted_filter (rs : List Record) (p : Record → Bool) (order : SortOrder) :
    sorted (rs.filter p) order = (sorted rs order).filter p :=
  mergeSort_filter (before_trans order) (before_total order) rs p

/-- A filter that keeps less leaves a part of the sorted records, in their order. -/
theorem sorted_filter_sublist {p q : Record → Bool} (h : ∀ r, p r = true → q r = true)
    (rs : List Record) (order : SortOrder) :
    (sorted (rs.filter p) order).Sublist (sorted (rs.filter q) order) := by
  rw [sorted_filter, sorted_filter]
  exact List.monotone_filter_right _ h

/-- The same tags are selected, whatever their order, how often they are given, and the blanks
around them. -/
def SameTags (tags tags' : List String) : Prop :=
  ∀ t, t ∈ tags.map Text.trim ↔ t ∈ tags'.map Text.trim

theorem SameTags.eq_nil_iff {tags tags' : List String} (h : SameTags tags tags') :
    tags = [] ↔ tags' = [] := by
  have hnone : ∀ ts : List String, ts = [] ↔ ∀ t, t ∉ ts.map Text.trim := fun ts => by
    rw [← List.eq_nil_iff_forall_not_mem, List.map_eq_nil_iff]
  rw [hnone, hnone]
  exact forall_congr' fun t => not_congr (h t)

/-- What a record carries depends on the trimmed tags only. -/
theorem carries_congr {tags tags' : List String} (h : SameTags tags tags') {r : Record}
    {logic : TagLogic} : r.Carries logic tags ↔ r.Carries logic tags' := by
  have hall : ∀ ts : List String, (∀ t ∈ ts, r.HasTag t) ↔
      ∀ t ∈ ts.map Text.trim, t ∈ r.tags.map Text.trim := fun ts => by
    rw [List.forall_mem_map]
    simp only [Record.hasTag_iff]
  have hany : ∀ ts : List String, (∃ t ∈ ts, r.HasTag t) ↔
      ∃ t ∈ ts.map Text.trim, t ∈ r.tags.map Text.trim := fun ts => by
    simp only [Record.hasTag_iff, List.mem_map, exists_exists_and_eq_and]
  cases logic with
  | all => simp only [Record.Carries, h.eq_nil_iff, hall, h _]
  | any => simp only [Record.Carries, h.eq_nil_iff, hany, h _]

/-- **The same tags select the same records**, in the same order. -/
theorem select_eq_of_sameTags {c : Criteria} {tags : List String} (h : SameTags c.tags tags)
    (rs : List Record) : select rs { c with tags := tags } = select rs c := by
  have hstage : ∀ available : List Record,
      byTags available tags c.tagLogic = byTags available c.tags c.tagLogic := by
    intro available
    simp only [byTags_eq, carries_congr h]
  simp only [select, narrow, hstage]

/-- One step from selected tags to others that say the same: they change places, one of them is
given again, or blanks are put around one. -/
inductive Respells : List String → List String → Prop
  | moved {tags tags' : List String} (h : tags.Perm tags') : Respells tags tags'
  | again {tags : List String} {t : String} (h : t ∈ tags) : Respells tags (t :: tags)
  | padded {front t back : String} {tags : List String} (hfront : Text.isBlankText front = true)
      (hback : Text.isBlankText back = true) : Respells (t :: tags) ((front ++ t ++ back) :: tags)

/-- Every such step leads to the same tags. -/
theorem Respells.sameTags {tags tags' : List String} (h : Respells tags tags') :
    SameTags tags tags' := by
  intro u
  cases h with
  | moved hperm => exact (hperm.map Text.trim).mem_iff
  | @again _ t ht =>
      rw [List.map_cons, List.mem_cons, or_iff_right_of_imp]
      rintro rfl
      exact List.mem_map_of_mem ht
  | padded hfront hback => rw [List.map_cons, List.map_cons, Text.trim_append hfront hback]

/-- Any number of such steps, there and back, select the same records. -/
theorem select_eq_of_respells {c : Criteria} {tags : List String}
    (h : Relation.EqvGen Respells c.tags tags) (rs : List Record) :
    select rs { c with tags := tags } = select rs c := by
  have hstep : ∀ ts ts', Respells ts ts' →
      select rs { c with tags := ts } = select rs { c with tags := ts' } := fun ts ts' hts =>
    (select_eq_of_sameTags (c := { c with tags := ts }) hts.sameTags rs).symm
  exact (Setoid.eqvGen_le (s := .ker fun ts => select rs { c with tags := ts }) hstep h).symm

/-- **One more selected tag.**  When the query of criteria can be read, one more tag leaves a part
of what they select if all tags are wanted, and adds to it if any is wanted and one was selected
before; either way the records keep their order.  Tags that are moved, given again or padded with
blanks select the same records. -/
theorem select_one_more_tag {c : Criteria} {tokens : List Token}
    (h : Query.parse c.query = .ok tokens) (rs : List Record) (t : String) :
    ∃ found found', select rs c = .ok found ∧
      select rs { c with tags := c.tags ++ [t] } = .ok found' ∧
      (c.tagLogic = .all → found'.Sublist found) ∧
      (c.tagLogic = .any → c.tags ≠ [] → found.Sublist found') ∧
      ∀ tags, Relation.EqvGen Respells c.tags tags →
        select rs { c with tags := tags } = .ok found := by
  have hfound := select_eq h rs
  have hfound' := select_eq (c := { c with tags := c.tags ++ [t] }) h rs
  refine ⟨_, _, hfound, hfound', fun hall => ?_, fun hany hne => ?_, fun tags hsame => ?_⟩
  · refine sorted_filter_sublist (fun r hr => ?_) rs c.sort
    rw [decide_eq_true_iff] at hr ⊢
    exact ⟨hr.query, hr.format, hall ▸ (hall ▸ hr.tags : r.Carries .all _).of_append⟩
  · refine sorted_filter_sublist (fun r hr => ?_) rs c.sort
    rw [decide_eq_true_iff] at hr ⊢
    exact ⟨hr.query, hr.format, hany ▸ (hany ▸ hr.tags : r.Carries .any _).append hne [t]⟩
  · exact (select_eq_of_respells hsame rs).trans hfound

/-- The first tag is selected with blanks around it. -/
theorem select_one_more_tag_padded :
    Query.parse "-war" = .ok [⟨.term, "war", none, true⟩] ∧
      ∃ found found', select
          [{ id := 1, title := "Emma", tags := ["b"] },
            { id := 2, title := "Dune", tags := ["a "] }]
          ⟨"-war", allFormats, [" a"], .any, .dateNewest⟩ = .ok found ∧
        select
          [{ id := 1, title := "Emma", tags := ["b"] },
            { id := 2, title := "Dune", tags := ["a "] }]
          ⟨"-war", allFormats, [" a", "b"], .any, .dateNewest⟩ = .ok found' ∧
        found.Sublist found' := by
  have hparse : Query.parse "-war" = .ok [⟨.term, "war", none, true⟩] := by
    rw [Query.parse, Query.pieces_eq_piecesWithin (n := 4) (by simp)]
    rfl
  obtain ⟨found, found', hfound, hfound', -, hwider, -⟩ :=
    select_one_more_tag (c := ⟨"-war", allFormats, [" a"], .any, .dateNewest⟩) hparse
      [{ id := 1, title := "Emma", tags := ["b"] },
        { id := 2, title := "Dune", tags := ["a "] }] "b"
  exact ⟨hparse, found, found', hfound, hfound', hwider rfl (by simp)⟩

end Selection

end Catalogue
