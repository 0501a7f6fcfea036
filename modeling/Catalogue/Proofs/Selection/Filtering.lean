import Catalogue.Proofs.Query.Grouping
import Catalogue.Proofs.Query.Reading
import Catalogue.Proofs.Selection.Sorting

/-!
# What criteria select

A record is admitted by criteria when it matches their query, is available in their format, and
carries their tags (`Criteria.Admits`).  Each stage of the selection keeps the records that meet its
own condition, in order (`narrow_eq`), so the stages can be run in any order, and what they leave is
the list of the admitted records.  The selection is the stable sort of that list, and selecting from
a selection changes nothing (`select_isSelection`).
-/

namespace Catalogue

/-- A record has a tag, blanks around both ignored. -/
def Record.HasTag (r : Record) (tag : String) : Prop :=
  ∃ u ∈ r.tags, Text.trim u = Text.trim tag

instance (r : Record) (tag : String) : Decidable (r.HasTag tag) :=
  inferInstanceAs (Decidable (∃ u ∈ r.tags, _))

/-- A record is available in a format: in every one, or in one that differs from it by letter case
and surrounding blanks only. -/
def Record.IsAvailable (r : Record) (format : String) : Prop :=
  format = allFormats ∨ ∃ f ∈ r.formats, normalFormat f = normalFormat format

instance (r : Record) (format : String) : Decidable (r.IsAvailable format) :=
  inferInstanceAs (Decidable (_ ∨ ∃ f ∈ r.formats, _))

/-- A record carries all, or at least one, of the selected tags, if there are any. -/
def Record.Carries (r : Record) (logic : TagLogic) (tags : List String) : Prop :=
  tags = [] ∨
    match logic with
    | .all => ∀ t ∈ tags, r.HasTag t
    | .any => ∃ t ∈ tags, r.HasTag t

instance (r : Record) (logic : TagLogic) (tags : List String) :
    Decidable (r.Carries logic tags) :=
  match logic with
  | .all => inferInstanceAs (Decidable (_ ∨ ∀ t ∈ tags, r.HasTag t))
  | .any => inferInstanceAs (Decidable (_ ∨ ∃ t ∈ tags, r.HasTag t))

/-- Criteria with these tokens for their query admit a record. -/
structure Criteria.Admits (c : Criteria) (tokens : List Token) (r : Record) : Prop where
  query : Query.isMatch tokens r = .ok true
  format : r.IsAvailable c.format
  tags : r.Carries c.tagLogic c.tags

theorem Criteria.admits_iff {c : Criteria} {tokens : List Token} {r : Record} :
    c.Admits tokens r ↔
      Query.isMatch tokens r = .ok true ∧ r.IsAvailable c.format ∧ r.Carries c.tagLogic c.tags :=
  ⟨fun h => ⟨h.query, h.format, h.tags⟩, fun h => ⟨h.1, h.2.1, h.2.2⟩⟩

instance (c : Criteria) (tokens : List Token) (r : Record) : Decidable (c.Admits tokens r) :=
  decidable_of_iff _ Criteria.admits_iff.symm

namespace Query

/-- The operators of a query are known. -/
theorem Denotes.not_isUnknownOperator {piece : Piece} {t : Token} (h : Denotes piece t) :
    ¬ t.IsUnknownOperator := by
  cases h with
  | operator => exact Token.not_isUnknownOperator_of_value rfl
  | plain => exact Token.not_isUnknownOperator_of_searched (by simp)
  | limited => exact Token.not_isUnknownOperator_of_searched (by simp)

/-- Reading a query makes no unknown operators. -/
theorem not_isUnknownOperator_of_parse {query : String} {tokens : List Token}
    (h : parse query = .ok tokens) : ∀ t ∈ tokens, ¬ t.IsUnknownOperator := by
  intro t ht
  obtain ⟨piece, -, hdenotes⟩ := exists_piece_of_parse h ht
  exact hdenotes.not_isUnknownOperator

/-- A query has no tokens exactly when it is blank. -/
theorem eq_nil_iff_of_parse {query : String} {tokens : List Token}
    (h : parse query = .ok tokens) : tokens = [] ↔ Text.isBlankText query = true := by
  have hpieces := (cut_pieces query.toList).eq_nil_iff fun _ hname => hname
  have hlength := (tokensOf_eq_ok_iff.mp h).length_eq
  rw [Text.isBlankText, List.all_eq_true, ← hpieces, ← List.length_eq_zero_iff,
    ← List.length_eq_zero_iff, hlength]

/-- What a query that was read says about a record. -/
theorem isMatch_of_parse {query : String} {tokens : List Token} (h : parse query = .ok tokens)
    (r : Record) :
    isMatch tokens r = .ok (tokens.isEmpty || someGroupMatches (segmentGroups tokens) r) :=
  isMatch_eq_ok_iff.mpr ⟨not_isUnknownOperator_of_parse h, rfl⟩

/-- A query that can be read can be compiled. -/
theorem ofText_of_parse {query : String} {tokens : List Token} (h : parse query = .ok tokens) :
    CompiledQuery.ofText query = .ok ⟨tokens, segmentGroups tokens⟩ := by
  have hgroups := groups_eq_ok_iff.mpr ⟨not_isUnknownOperator_of_parse h, rfl⟩
  rw [CompiledQuery.ofText, h]
  simp only [hgroups, Except.map]

/-- A compiled query says the same about a record as its tokens. -/
theorem isMatch_compiled {query : String} {tokens : List Token} (h : parse query = .ok tokens)
    (r : Record) :
    isMatch tokens r = .ok (CompiledQuery.isMatch ⟨tokens, segmentGroups tokens⟩ r) :=
  isMatch_of_parse h r

end Query

namespace Selection

/-- The stage of the query keeps the records that match it, also when it is blank and not looked
at. -/
theorem byQuery_eq {query : String} {tokens : List Token} (h : Query.parse query = .ok tokens)
    (rs : List Record) :
    byQuery rs query = .ok (rs.filter (Query.isMatch tokens · = .ok true)) := by
  simp only [Query.isMatch_compiled h, Except.ok.injEq, Bool.decide_eq_true]
  rw [byQuery]
  split
  · next hblank =>
      obtain rfl := (Query.eq_nil_iff_of_parse h).mpr hblank
      simp [CompiledQuery.isMatch, CompiledQuery.isEmpty]
  · rw [Query.ofText_of_parse h]
    rfl

/-- A book has a format if one of its formats is the same once both are normal. -/
theorem hasFormat_iff {r : Record} {format : String} :
    r.hasFormat format = true ↔ ∃ f ∈ r.formats, normalFormat f = normalFormat format := by
  simp [Record.hasFormat, Record.normalFormats]

/-- The stage of the format keeps the records that are available in it. -/
theorem byFormat_eq (rs : List Record) (format : String) :
    byFormat rs format = rs.filter (·.IsAvailable format) := by
  unfold byFormat Record.IsAvailable
  split
  · next hall => simp [hall]
  · next hsome => simp [hsome, ← hasFormat_iff]

/-- What a record carries, told by its trimmed tags. -/
theorem carries_iff {r : Record} {logic : TagLogic} {tags : List String} (h : tags ≠ []) :
    carries logic (tags.map Text.trim) r = true ↔ r.Carries logic tags := by
  cases logic <;> simp [carries, Record.Carries, Record.HasTag, h]

/-- The stage of the tags keeps the records that carry them. -/
theorem byTags_eq (rs : List Record) (tags : List String) (logic : TagLogic) :
    byTags rs tags logic = rs.filter (·.Carries logic tags) := by
  unfold byTags
  split
  · next hnone => simp [List.isEmpty_iff.mp hnone, Record.Carries]
  · next hsome =>
      have hne : tags ≠ [] := by simpa using hsome
      simp [← carries_iff hne]

/-- The stages that narrow a selection. -/
inductive Stage where
  | query
  | format
  | tags
  deriving DecidableEq, Repr

/-- The stages in the order in which a selection runs them. -/
def Stage.all : List Stage :=
  [.query, .format, .tags]

/-- Runs one stage. -/
def Stage.run (c : Criteria) (rs : List Record) : Stage → Except UnknownChoice (List Record)
  | .query => byQuery rs c.query
  | .format => .ok (byFormat rs c.format)
  | .tags => .ok (byTags rs c.tags c.tagLogic)

/-- Runs stages one after the other. -/
def runStages (c : Criteria) (stages : List Stage) (rs : List Record) :
    Except UnknownChoice (List Record) :=
  stages.foldlM (Stage.run c) rs

/-- What a stage asks of a record. -/
def Stage.keeps (c : Criteria) (tokens : List Token) (r : Record) : Stage → Bool
  | .query => Query.isMatch tokens r = .ok true
  | .format => r.IsAvailable c.format
  | .tags => r.Carries c.tagLogic c.tags

section Stages

variable {c : Criteria} {tokens : List Token}

/-- A stage keeps the records that meet its condition, in order. -/
theorem Stage.run_eq (h : Query.parse c.query = .ok tokens) (rs : List Record) (stage : Stage) :
    stage.run c rs = .ok (rs.filter (stage.keeps c tokens)) := by
  cases stage with
  | query => exact byQuery_eq h rs
  | format => exact congrArg Except.ok (byFormat_eq rs c.format)
  | tags => exact congrArg Except.ok (byTags_eq rs c.tags c.tagLogic)

/-- Stages keep the records that meet all their conditions. -/
theorem runStages_eq (h : Query.parse c.query = .ok tokens) (stages : List Stage)
    (rs : List Record) :
    runStages c stages rs =
      .ok (rs.filter fun r => stages.all fun stage => stage.keeps c tokens r) := by
  induction stages generalizing rs with
  | nil => simp [runStages, pure, Except.pure]
  | cons stage stages ih =>
      have hrest := ih (rs.filter (stage.keeps c tokens))
      rw [List.filter_filter] at hrest
      rw [runStages, List.foldlM_cons, Stage.run_eq h]
      simpa [runStages, bind, Except.bind, Bool.and_comm] using hrest

/-- Criteria admit what all stages keep. -/
theorem all_keeps_eq (r : Record) :
    (Stage.all.all fun stage => stage.keeps c tokens r) = decide (c.Admits tokens r) := by
  simp [Stage.all, Stage.keeps, Criteria.admits_iff]

/-- The records that are left do not depend on the order of the stages. -/
theorem runStages_perm (h : Query.parse c.query = .ok tokens) {stages : List Stage}
    (hstages : stages.Perm Stage.all) (rs : List Record) :
    runStages c stages rs = .ok (rs.filter (c.Admits tokens ·)) := by
  rw [runStages_eq h]
  simp only [hstages.all_eq, all_keeps_eq]

/-- Narrowing runs the stages in their order. -/
theorem map_narrow_eq (c : Criteria) (rs : List Record) :
    (narrow rs c).map (·.afterTags) = runStages c Stage.all rs := by
  rw [narrow, runStages, Stage.all, List.foldlM_cons, Stage.run]
  cases byQuery rs c.query <;> rfl

/-- **A selection is sorted from what is admitted.** -/
theorem select_eq (h : Query.parse c.query = .ok tokens) (rs : List Record) :
    select rs c = .ok (sorted (rs.filter (c.Admits tokens ·)) c.sort) := by
  have hnarrow := (map_narrow_eq c rs).trans (runStages_perm h (List.Perm.refl _) rs)
  obtain ⟨narrowed, hnarrowed, hleft⟩ := map_eq_ok_iff.mp hnarrow
  rw [select, hnarrowed, ← hleft]
  rfl

/-- Selecting from a selection changes nothing. -/
theorem select_select (h : Query.parse c.query = .ok tokens) {rs results : List Record}
    (hresults : select rs c = .ok results) : select results c = .ok results := by
  rw [select_eq h] at hresults ⊢
  obtain rfl := Except.ok.inj hresults
  have hsort := isStableSort_sorted (rs.filter (c.Admits tokens ·)) c.sort
  have hadmitted : ∀ r ∈ sorted (rs.filter (c.Admits tokens ·)) c.sort, c.Admits tokens r := by
    intro r hr
    simpa using (List.mem_filter.mp (hsort.perm.mem_iff.mp hr)).2
  rw [List.filter_eq_self.mpr (by simpa using hadmitted), sorted_eq_self hsort.ordered]

end Stages

/-- The results of criteria with these tokens for their query. -/
structure IsSelection (c : Criteria) (tokens : List Token) (rs results : List Record) : Prop where
  /-- They are the admitted records, sorted. -/
  stableSort : IsStableSort c.sort (rs.filter (c.Admits tokens ·)) results
  /-- No other list is that. -/
  unique : ∀ results', IsStableSort c.sort (rs.filter (c.Admits tokens ·)) results' →
    results' = results
  /-- The query that is compiled once says of each record what its tokens say, and a blank query,
  which is not looked at, keeps what the compiled one keeps. -/
  compiled : ∃ q, CompiledQuery.ofText c.query = .ok q ∧
    (∀ r, Query.isMatch tokens r = .ok (q.isMatch r)) ∧ byQuery rs c.query = .ok (q.filter rs)
  /-- The order of the stages does not matter. -/
  anyOrder : ∀ stages : List Stage, stages.Perm Stage.all →
    (runStages c stages rs).map (sorted · c.sort) = .ok results
  /-- Selecting from them again changes nothing. -/
  again : select results c = .ok results

/-- **What criteria select.**  When their query can be read, criteria select the stable sort of the
records that they admit, and the ways to find it agree. -/
theorem select_isSelection (rs : List Record) {c : Criteria} {tokens : List Token}
    (h : Query.parse c.query = .ok tokens) :
    ∃ results, select rs c = .ok results ∧ IsSelection c tokens rs results := by
  refine ⟨_, select_eq h rs, ?_⟩
  exact
    { stableSort := isStableSort_sorted _ _
      unique := fun results' hresults' => hresults'.unique (isStableSort_sorted _ _)
      compiled := by
        refine ⟨_, Query.ofText_of_parse h, Query.isMatch_compiled h, ?_⟩
        simp only [byQuery_eq h, Query.isMatch_compiled h, Except.ok.injEq, Bool.decide_eq_true]
        rfl
      anyOrder := fun stages hstages => by
        rw [runStages_perm h hstages]
        rfl
      again := select_select h (select_eq h rs) }

/-- Two books without a date, in a format and with a tag that differ from the selected ones by
blanks and letter case. -/
theorem select_isSelection_undated :
    Query.parse "dune OR -tag:\"old x\"" = .ok [⟨.term, "dune", none, false⟩,
      ⟨.operator, "OR", none, false⟩, ⟨.phrase, "old x", some .tag, true⟩] ∧
    ∃ results, select
        [{ id := 1, title := "Dune", tags := [" b "], formats := ["EPUB"] },
          { id := 2, title := "Emma", tags := ["b"], formats := ["epub "] }]
        ⟨"dune OR -tag:\"old x\"", " Epub", ["a", "b "], .any, .dateNewest⟩ = .ok results ∧
      IsSelection ⟨"dune OR -tag:\"old x\"", " Epub", ["a", "b "], .any, .dateNewest⟩
        [⟨.term, "dune", none, false⟩, ⟨.operator, "OR", none, false⟩,
          ⟨.phrase, "old x", some .tag, true⟩]
        [{ id := 1, title := "Dune", tags := [" b "], formats := ["EPUB"] },
          { id := 2, title := "Emma", tags := ["b"], formats := ["epub "] }] results := by
  have hparse : Query.parse "dune OR -tag:\"old x\"" = .ok [⟨.term, "dune", none, false⟩,
      ⟨.operator, "OR", none, false⟩, ⟨.phrase, "old x", some .tag, true⟩] := by
    rw [Query.parse, Query.pieces_eq_piecesWithin (n := 20) (by simp)]
    rfl
  exact ⟨hparse, select_isSelection _ hparse⟩

end Selection

end Catalogue
