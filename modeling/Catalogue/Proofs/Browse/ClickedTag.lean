import Catalogue.Browse
import Catalogue.Proofs.Facet.Searching
import Catalogue.Proofs.Query.Placement
import Catalogue.Proofs.Selection.Filtering

/-!
# Opening a browser on a tag

A browser that is opened on a tag reads the name of the tag as a query.  It finds the books with the
tag when one of the alternatives in that query asks only for parts of the name (`Query.FindsTag`): a
value without a field occurs in the name it was read from, whatever its letters
(`Token.isMatch_of_asksFor`).  A dash or the name of another field in every alternative lets books
with the tag go missing (`Browser.select_ofQuery_tag`).
-/

namespace Catalogue

/-- A token asks for a part of a tag. -/
def Token.AsksFor (t : Token) (tag : String) : Prop :=
  t.negated = false ∧
    (t.field = none ∨ t.field = some .tag ∧ occursInLower (Text.lower t.value) tag = true)

/-- One of the alternatives in a query searches for something, and only for parts of a tag. -/
def Query.FindsTag (tokens : List Token) (tag : String) : Prop :=
  ∃ segment, IsSegment tokens segment ∧ (∃ t ∈ segment, t.isOperator = false) ∧
    ∀ t ∈ segment, t.isOperator = false → t.AsksFor tag

/-- What occurs in the lower case of a tag occurs in that of every way to write it. -/
theorem occursInLower_of_hasTag {needle tag : String} {r : Record} (htrim : Text.trim tag = tag)
    (h : occursInLower needle tag = true) (hr : r.HasTag tag) :
    r.tags.any (occursInLower needle) = true := by
  obtain ⟨u, hu, hsame⟩ := hr
  rw [htrim] at hsame
  refine List.any_eq_true.mpr ⟨u, hu, occursInLower_iff.mpr ?_⟩
  rw [occursInLower_iff, ← hsame] at h
  exact h.trans (Text.lower_trim_within u)

section Reading

variable {tag : String} {tokens : List Token} {t : Token}

/-- A value without a field occurs in the name that it was read from. -/
theorem occursInLower_of_parse (hparse : Query.parse tag = .ok tokens) (ht : t ∈ tokens)
    (hsearched : t.isOperator = false) (hfield : t.field = none) :
    occursInLower (Text.lower t.value) tag = true :=
  occursInLower_iff.mpr (Query.lower_value_within hparse ht hsearched hfield)

/-- A token without a field occurs in every record with the tag that it was read from. -/
theorem Token.occursInRecord_of_parse (hparse : Query.parse tag = .ok tokens) (ht : t ∈ tokens)
    (hsearched : t.isOperator = false) (hfield : t.field = none) (htrim : Text.trim tag = tag)
    {r : Record} (hr : r.HasTag tag) : t.occursInRecord r = true := by
  have htags := occursInLower_of_hasTag htrim (occursInLower_of_parse hparse ht hsearched hfield) hr
  simp only [Token.occursInRecord, hfield, htags, Bool.or_true, Bool.true_or]

/-- A token that asks for a part of the tag matches every record with the tag. -/
theorem Token.isMatch_of_asksFor (hparse : Query.parse tag = .ok tokens) (ht : t ∈ tokens)
    (hsearched : t.isOperator = false) (hasks : t.AsksFor tag) (htrim : Text.trim tag = tag)
    {r : Record} (hr : r.HasTag tag) : t.isMatch r = true := by
  obtain ⟨hplain, hfield | ⟨hfield, hoccurs⟩⟩ := hasks
  · simp [Token.isMatch, hplain,
      Token.occursInRecord_of_parse hparse ht hsearched hfield htrim hr]
  · simp only [Token.isMatch, hplain, Bool.false_eq_true, if_false, Token.occursInRecord, hfield]
    exact occursInLower_of_hasTag htrim hoccurs hr

/-- A token that matches the bare book asks for a part of its tag, unless it has both a dash and a
field. -/
theorem Token.asksFor_of_isMatch_bareBook (hparse : Query.parse tag = .ok tokens) (ht : t ∈ tokens)
    (hsearched : t.isOperator = false) (hlimited : t.negated = true → t.field = none)
    (htrim : Text.trim tag = tag) (hmatch : t.isMatch (bareBook tag) = true) : t.AsksFor tag := by
  have hvalue : t.value ≠ "" := by
    simpa using Query.value_ne_nil_of_parse hparse ht hsearched
  have hempty := occursInLower_empty hvalue
  have hplain : t.negated = false := by
    by_contra hdash
    rw [Bool.not_eq_false] at hdash
    have hoccurs := Token.occursInRecord_of_parse hparse ht hsearched (hlimited hdash) htrim
      (r := bareBook tag) ⟨tag, List.mem_singleton_self tag, rfl⟩
    simp [Token.isMatch, hdash, hoccurs] at hmatch
  refine ⟨hplain, ?_⟩
  simp only [Token.isMatch, hplain, Bool.false_eq_true, if_false, Token.occursInRecord,
    bareBook] at hmatch
  cases hfield : t.field with
  | none => exact Or.inl rfl
  | some field =>
      rw [hfield] at hmatch
      cases field with
      | tag => exact Or.inr ⟨rfl, by simpa using hmatch⟩
      | title => simp [hempty] at hmatch
      | author => simp [hempty] at hmatch
      | publisher => simp [hempty] at hmatch

end Reading

namespace Browser

section Shown

variable {tag : String} {tokens : List Token}

/-- A browser that is opened on a query selects what matches it. -/
theorem select_ofQuery (hparse : Query.parse tag = .ok tokens) (rs : List Record) :
    ∃ shown, select rs (ofQuery tag).criteria = .ok shown ∧
      ∀ r, r ∈ shown ↔ r ∈ rs ∧ Query.isMatch tokens r = .ok true := by
  refine ⟨_, Selection.select_eq hparse rs, fun r => ?_⟩
  have hadmits : (ofQuery tag).criteria.Admits tokens r ↔ Query.isMatch tokens r = .ok true := by
    simp [Criteria.admits_iff, ofQuery, Record.IsAvailable, Record.Carries]
  rw [(Selection.isStableSort_sorted _ _).perm.mem_iff, List.mem_filter, decide_eq_true_iff,
    hadmits]

/-- It does not show a book that does not match. -/
theorem select_ofQuery_singleton (hparse : Query.parse tag = .ok tokens) {book : Record}
    (h : Query.isMatch tokens book ≠ .ok true) :
    select [book] (ofQuery tag).criteria = .ok [] := by
  obtain ⟨shown, hshown, hmem⟩ := select_ofQuery hparse [book]
  have hnone : shown = [] := by
    rw [List.eq_nil_iff_forall_not_mem]
    intro r hr
    obtain ⟨hr, hmatch⟩ := (hmem r).mp hr
    exact h (List.mem_singleton.mp hr ▸ hmatch)
  rw [hshown, hnone]

/-- A record with the tag matches a query that finds it. -/
theorem isMatch_of_findsTag (hparse : Query.parse tag = .ok tokens) (htrim : Text.trim tag = tag)
    (hfinds : Query.FindsTag tokens tag) {r : Record} (hr : r.HasTag tag) :
    Query.isMatch tokens r = .ok true := by
  obtain ⟨segment, hsegment, hsome, hasks⟩ := hfinds
  have hmatches : Query.SegmentMatches segment r := by
    refine ⟨hsome, fun t ht hsearched => ?_⟩
    exact Token.isMatch_of_asksFor hparse (hsegment.subset ht) hsearched (hasks t ht hsearched)
      htrim hr
  rw [Query.isMatch_of_parse hparse,
    Query.someGroupMatches_segmentGroups_iff.mpr ⟨segment, hsegment, hmatches⟩, Bool.or_true]

/-- A query that the bare book matches finds its tag. -/
theorem findsTag_of_isMatch_bareBook (hparse : Query.parse tag = .ok tokens)
    (htrim : Text.trim tag = tag) (hne : tag ≠ "")
    (hlimited : ∀ t ∈ tokens, t.negated = true → t.field = none)
    (hmatch : Query.isMatch tokens (bareBook tag) = .ok true) : Query.FindsTag tokens tag := by
  have hnonempty : tokens.isEmpty = false := by
    rw [Bool.eq_false_iff, ne_eq, List.isEmpty_iff, Query.eq_nil_iff_of_parse hparse]
    intro hblank
    exact hne (htrim.symm.trans (Text.trim_eq_empty_iff.mpr hblank))
  rw [Query.isMatch_of_parse hparse, hnonempty, Bool.false_or, Except.ok.injEq,
    Query.someGroupMatches_segmentGroups_iff] at hmatch
  obtain ⟨segment, hsegment, hsome, hall⟩ := hmatch
  refine ⟨segment, hsegment, hsome, fun t ht hsearched => ?_⟩
  have hmem := hsegment.subset ht
  exact Token.asksFor_of_isMatch_bareBook hparse hmem hsearched (hlimited t hmem) htrim
    (hall t ht hsearched)

end Shown

/-- **Opening a browser on a tag.**  When the name of a listed tag can be read as a query that finds
the tag, all records with the tag are shown.  Otherwise there is a book with the tag that is not
shown, even alone, unless a token has both a dash and a field. -/
theorem select_ofQuery_tag {rs : List Record} {tag : String} {tokens : List Token}
    (hlisted : tag ∈ (Facets.ofRecords rs).tagCounts.names)
    (hparse : Query.parse tag = .ok tokens) :
    ∃ shown, select rs (ofQuery tag).criteria = .ok shown ∧
      (Query.FindsTag tokens tag → ∀ r ∈ rs, r.HasTag tag → r ∈ shown) ∧
      (¬ Query.FindsTag tokens tag → (∀ t ∈ tokens, t.negated = true → t.field = none) →
        ∃ book : Record, tag ∈ (Facets.ofRecords [book]).tagCounts.names ∧ book.HasTag tag ∧
          select [book] (ofQuery tag).criteria = .ok []) := by
  obtain ⟨⟨r₀, -, u, -, hu⟩, hne⟩ := Facets.mem_tagCounts_iff.mp hlisted
  have htrim : Text.trim tag = tag := by rw [← hu, Text.trim_trim]
  obtain ⟨shown, hshown, hmem⟩ := select_ofQuery hparse rs
  refine ⟨shown, hshown, fun hfinds r hr htag => ?_, fun hmisses hlimited => ?_⟩
  · exact (hmem r).mpr ⟨hr, isMatch_of_findsTag hparse htrim hfinds htag⟩
  · have htag : (bareBook tag).HasTag tag := ⟨tag, List.mem_singleton_self tag, rfl⟩
    refine ⟨bareBook tag, ?_, htag, ?_⟩
    · exact mem_tagCounts_bareBook htrim hne
    · exact select_ofQuery_singleton hparse fun hmatch =>
        hmisses (findsTag_of_isMatch_bareBook hparse htrim hne hlimited hmatch)

/-- The name of a tag that finds itself, with a book that has it between blanks. -/
theorem select_ofQuery_tag_quoted :
    "\"Sci-Fi\" or -tag:x" ∈ (Facets.ofRecords
        [{ id := 3, title := "Dune", tags := [" \"Sci-Fi\" or -tag:x "] }]).tagCounts.names ∧
      Query.parse "\"Sci-Fi\" or -tag:x" = .ok [⟨.phrase, "Sci-Fi", none, false⟩,
        ⟨.operator, "OR", none, false⟩, ⟨.term, "x", some .tag, true⟩] ∧
      ∃ shown, select [{ id := 3, title := "Dune", tags := [" \"Sci-Fi\" or -tag:x "] }]
          (ofQuery "\"Sci-Fi\" or -tag:x").criteria = .ok shown ∧
        { id := 3, title := "Dune", tags := [" \"Sci-Fi\" or -tag:x "] } ∈ shown := by
  have hlisted : "\"Sci-Fi\" or -tag:x" ∈ (Facets.ofRecords
      [{ id := 3, title := "Dune", tags := [" \"Sci-Fi\" or -tag:x "] }]).tagCounts.names := by
    rw [Facets.mem_tagCounts_iff]
    decide
  have hparse : Query.parse "\"Sci-Fi\" or -tag:x" = .ok [⟨.phrase, "Sci-Fi", none, false⟩,
      ⟨.operator, "OR", none, false⟩, ⟨.term, "x", some .tag, true⟩] := by
    rw [Query.parse, Query.pieces_eq_piecesWithin (n := 18) (by simp)]
    rfl
  obtain ⟨shown, hshown, hfound, -⟩ := select_ofQuery_tag hlisted hparse
  refine ⟨hlisted, hparse, shown, hshown, hfound ?_ _ (List.mem_singleton_self _) (by decide)⟩
  refine ⟨[⟨.phrase, "Sci-Fi", none, false⟩], ?_, ⟨_, List.mem_singleton_self _, rfl⟩, ?_⟩
  · exact ⟨[], [⟨.operator, "OR", none, false⟩, ⟨.term, "x", some .tag, true⟩], rfl, by decide,
      by simp, by decide⟩
  · intro t ht _
    rw [List.mem_singleton.mp ht]
    exact ⟨rfl, Or.inl rfl⟩

/-- A tag whose books are not shown: the second dash excludes what contains a dash. -/
theorem select_ofQuery_tag_dashes :
    "History -- Fiction" ∈ (Facets.ofRecords
        [{ id := 1, title := "Wolf Hall", tags := ["History -- Fiction"] }]).tagCounts.names ∧
      select [{ id := 1, title := "Wolf Hall", tags := ["History -- Fiction"] }]
        (ofQuery "History -- Fiction").criteria = .ok [] ∧
      ¬ ∀ (rs : List Record) (tag : String), tag ∈ (Facets.ofRecords rs).tagCounts.names →
        ∀ r ∈ rs, r.HasTag tag →
          ∃ shown, select rs (ofQuery tag).criteria = .ok shown ∧ r ∈ shown := by
  have hlisted : "History -- Fiction" ∈ (Facets.ofRecords
      [{ id := 1, title := "Wolf Hall", tags := ["History -- Fiction"] }]).tagCounts.names := by
    rw [Facets.mem_tagCounts_iff]
    decide
  have hparse : Query.parse "History -- Fiction" = .ok [⟨.term, "History", none, false⟩,
      ⟨.term, "-", none, true⟩, ⟨.term, "Fiction", none, false⟩] := by
    rw [Query.parse, Query.pieces_eq_piecesWithin (n := 18) (by simp)]
    rfl
  have hhidden : select [{ id := 1, title := "Wolf Hall", tags := ["History -- Fiction"] }]
      (ofQuery "History -- Fiction").criteria = .ok [] :=
    select_ofQuery_singleton hparse (by decide +kernel)
  refine ⟨hlisted, hhidden, fun hshown => ?_⟩
  obtain ⟨shown, hselected, hmem⟩ :=
    hshown _ _ hlisted _ (List.mem_singleton_self _) (by decide)
  rw [hhidden] at hselected
  cases hselected
  simp at hmem

end Browser

end Catalogue
