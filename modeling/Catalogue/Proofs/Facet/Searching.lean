import Catalogue.Proofs.Facet.Counting
import Catalogue.Proofs.Selection.Filtering
import Catalogue.Proofs.Text.OpenSigma

/-!
# Looking for texts

Tokens and the search for tags look for the lower case of a text in the lower case of another.  The
two agree on tags: a token that is limited to tags matches the records with a tag that the search
finds (`filter_inTags`), though the one reads the tags as they are written and the other the
trimmed tags of the facets.

Neither finds a text wherever it stands.  A capital sigma at the end of what is looked for has the
final form, also where the text goes on, so only texts without open sigmas are found in everything
that contains them (`literals_found_iff`).
-/

namespace Catalogue

theorem occursInLower_iff {needle text : String} :
    occursInLower needle text = true ↔ needle.toList <:+: (Text.lower text).toList :=
  Text.occursIn_iff

/-- The lower case of a text in that of another, said of their characters. -/
theorem occursInLower_lower_iff {text whole : String} :
    occursInLower (Text.lower text) whole = true ↔
      Text.lowerChars text.toList <:+: Text.lowerChars whole.toList := by
  rw [occursInLower_iff, Text.lower, Text.lower, String.toList_ofList, String.toList_ofList]

namespace Facets

/-- The search for tags finds the listed tags with the trimmed text in them. -/
theorem mem_searchTags_iff {f : Facets} {text tag : String} :
    tag ∈ (f.searchTags text).names ↔
      tag ∈ f.tagCounts.names ∧ occursInLower (Text.lower (Text.trim text)) tag = true := by
  unfold searchTags
  dsimp only
  split
  · next hnone =>
      have hall : occursInLower (Text.lower (Text.trim text)) tag = true := by
        rw [occursInLower_iff, hnone]
        exact List.nil_infix
      simp [hall]
  · simp only [Tally.names, List.mem_map, List.mem_filter]
    constructor
    · rintro ⟨entry, ⟨hentry, hoccurs⟩, rfl⟩
      exact ⟨⟨entry, hentry, rfl⟩, hoccurs⟩
    · rintro ⟨⟨entry, hentry, rfl⟩, hoccurs⟩
      exact ⟨entry, ⟨hentry, hoccurs⟩, rfl⟩

end Facets

/-- The token that looks for a text in the tags. -/
def Token.inTags (text : String) : Token :=
  ⟨.term, text, some .tag, false⟩

/-- A token limited to the tags matches a book if the text occurs in one of them. -/
theorem Token.isMatch_inTags_iff {text : String} {r : Record} :
    (Token.inTags text).isMatch r = true ↔
      ∃ u ∈ r.tags, occursInLower (Text.lower text) u = true := by
  simp [Token.inTags, Token.isMatch, Token.occursInRecord]

/-- A text that is not empty does not occur in the empty one. -/
theorem occursInLower_empty {text : String} (hne : text ≠ "") :
    occursInLower (Text.lower text) "" = false := by
  rw [Bool.eq_false_iff, ne_eq, occursInLower_lower_iff]
  intro hoccurs
  have hnone : Text.lowerChars text.toList = [] := List.infix_nil.mp hoccurs
  exact hne (by simpa using Text.lowerChars_eq_nil_iff.mp hnone)

section Tags

variable {text : String}

/-- A text without blanks is looked for in a tag as in the trimmed tag. -/
theorem occursInLower_trim (hne : text ≠ "") (hblank : ∀ c ∈ text.toList, Text.isBlank c = false)
    (tag : String) :
    occursInLower (Text.lower text) (Text.trim tag) = occursInLower (Text.lower text) tag := by
  have hsome : text.toList ≠ [] := by simpa using hne
  rw [Bool.eq_iff_iff, occursInLower_lower_iff, occursInLower_lower_iff, Text.trim,
    String.toList_ofList, ← Text.within_lowerChars_trimChars_iff hsome hblank]

/-- The search for a text without blanks finds the trimmed tags that it occurs in. -/
theorem Facets.trim_mem_searchTags_iff {rs : List Record} (hne : text ≠ "")
    (hblank : ∀ c ∈ text.toList, Text.isBlank c = false) {r : Record} (hr : r ∈ rs) {u : String}
    (hu : u ∈ r.tags) :
    Text.trim u ∈ ((Facets.ofRecords rs).searchTags text).names ↔
      occursInLower (Text.lower text) u = true := by
  have htrim : Text.trim text = text := by
    rw [Text.trim, (Text.isTrimmed_of_blankless hblank).trimChars_eq, String.ofList_toList]
  rw [Facets.mem_searchTags_iff, htrim, occursInLower_trim hne hblank]
  refine and_iff_right_of_imp fun hoccurs => ?_
  refine Facets.mem_tagCounts_iff.mpr ⟨⟨r, hr, u, hu, rfl⟩, fun hempty => ?_⟩
  rw [← occursInLower_trim hne hblank, hempty, occursInLower_empty hne] at hoccurs
  exact absurd hoccurs (by decide)

/-- **Two ways to look for tags.**  A token that looks for a text without blanks in the tags matches
the records with a tag that the search for the text finds.  These are the records that are left when
the found tags are selected, in the same order; and if the search finds nothing, the token matches
nothing. -/
theorem filter_inTags (rs : List Record) (hne : text ≠ "")
    (hblank : ∀ c ∈ text.toList, Text.isBlank c = false) :
    (∀ r ∈ rs, (Token.inTags text).isMatch r = true ↔
        ∃ u ∈ r.tags, Text.trim u ∈ ((Facets.ofRecords rs).searchTags text).names) ∧
      (((Facets.ofRecords rs).searchTags text).names ≠ [] →
        rs.filter (Token.inTags text).isMatch =
          Selection.byTags rs ((Facets.ofRecords rs).searchTags text).names .any) ∧
      (((Facets.ofRecords rs).searchTags text).names = [] →
        ∀ r ∈ rs, (Token.inTags text).isMatch r = false) := by
  have hmatch : ∀ r ∈ rs, (Token.inTags text).isMatch r = true ↔
      ∃ u ∈ r.tags, Text.trim u ∈ ((Facets.ofRecords rs).searchTags text).names := by
    intro r hr
    rw [Token.isMatch_inTags_iff]
    refine exists_congr fun u => and_congr_right fun hu => ?_
    rw [Facets.trim_mem_searchTags_iff hne hblank hr hu]
  refine ⟨hmatch, fun hfound => ?_, fun hnone r hr => ?_⟩
  · rw [Selection.byTags_eq]
    refine List.filter_congr fun r hr => ?_
    rw [Bool.eq_iff_iff, hmatch r hr, decide_eq_true_iff, Record.Carries, or_iff_right hfound]
    constructor
    · rintro ⟨u, hu, hlisted⟩
      exact ⟨_, hlisted, u, hu, (Text.trim_trim u).symm⟩
    · rintro ⟨tag, hlisted, u, hu, hsame⟩
      have htrim : Text.trim tag = tag :=
        Facets.trim_of_mem_tagCounts (Facets.mem_searchTags_iff.mp hlisted).1
      exact ⟨u, hu, by rwa [hsame, htrim]⟩
  · rw [Bool.eq_false_iff, ne_eq, hmatch r hr, hnone]
    simp

/-- A text that is found in a tag between blanks, and not in a longer word, where its last letter
has another form. -/
theorem filter_inTags_sigma :
    "ΔΟΣ" ≠ "" ∧ (∀ c ∈ "ΔΟΣ".toList, Text.isBlank c = false) ∧
      "ΟΔΟΣ" ∈ ((Facets.ofRecords [bareBook " ΟΔΟΣ ", bareBook "ΔΟΣΕΙΣ"]).searchTags "ΔΟΣ").names ∧
      [bareBook " ΟΔΟΣ ", bareBook "ΔΟΣΕΙΣ"].filter (Token.inTags "ΔΟΣ").isMatch =
        Selection.byTags [bareBook " ΟΔΟΣ ", bareBook "ΔΟΣΕΙΣ"]
          ((Facets.ofRecords [bareBook " ΟΔΟΣ ", bareBook "ΔΟΣΕΙΣ"]).searchTags "ΔΟΣ").names .any ∧
      (Token.inTags "ΔΟΣ").isMatch (bareBook "ΔΟΣΕΙΣ") = false := by
  have hne : "ΔΟΣ" ≠ "" := by decide
  have hblank : ∀ c ∈ "ΔΟΣ".toList, Text.isBlank c = false := by simp [Text.isBlank]
  have hfound : "ΟΔΟΣ" ∈
      ((Facets.ofRecords [bareBook " ΟΔΟΣ ", bareBook "ΔΟΣΕΙΣ"]).searchTags "ΔΟΣ").names := by
    rw [Facets.mem_searchTags_iff, Facets.mem_tagCounts_iff]
    decide +kernel
  obtain ⟨-, hsome, -⟩ := filter_inTags [bareBook " ΟΔΟΣ ", bareBook "ΔΟΣΕΙΣ"] hne hblank
  exact ⟨hne, hblank, hfound, hsome (List.ne_nil_of_mem hfound), by decide +kernel⟩

end Tags

/-- A text stands as it is in one of the fields where a token without a field looks for it. -/
def Record.Contains (r : Record) (text : String) : Prop :=
  Text.occursIn text r.title = true ∨ Text.occursIn text r.authors = true ∨
    (∃ tag ∈ r.tags, Text.occursIn text tag = true) ∨ Text.occursIn text r.publisher = true

/-- A token that is not limited looks into the title, the authors, the tags and the publisher. -/
theorem Token.isMatch_plain_iff {kind : TokenKind} {text : String} {r : Record} :
    (⟨kind, text, none, false⟩ : Token).isMatch r = true ↔
      occursInLower (Text.lower text) r.title = true ∨
        occursInLower (Text.lower text) r.authors = true ∨
        (∃ tag ∈ r.tags, occursInLower (Text.lower text) tag = true) ∨
        occursInLower (Text.lower text) r.publisher = true := by
  simp [Token.isMatch, Token.occursInRecord, or_assoc]

/-- A text without open sigmas is found where it stands. -/
theorem occursInLower_of_occursIn {text whole : String} (h : ¬ Text.HasOpenSigma text.toList)
    (hoccurs : Text.occursIn text whole = true) :
    occursInLower (Text.lower text) whole = true := by
  obtain ⟨before, after, hsplit⟩ := Text.occursIn_iff.mp hoccurs
  rw [occursInLower_lower_iff, ← hsplit]
  exact Text.lowerChars_within_of_not_open h before after

/-- A text that is found in every title that contains it has no open sigma. -/
theorem not_hasOpenSigma_of_found {kind : TokenKind} {text : String}
    (h : ∀ r : Record, r.Contains text → (⟨kind, text, none, false⟩ : Token).isMatch r = true) :
    ¬ Text.HasOpenSigma text.toList := by
  rw [← Text.lowerChars_within_iff]
  intro before after
  have hcontains : Record.Contains
      { id := 1, title := String.ofList (before ++ text.toList ++ after) } text :=
    Or.inl (Text.occursIn_iff.mpr ⟨before, after, by rw [String.toList_ofList]⟩)
  by_cases hne : text = ""
  · rw [hne]
    exact List.nil_infix
  · have hfound := Token.isMatch_plain_iff.mp (h _ hcontains)
    simpa [occursInLower_empty hne, occursInLower_lower_iff] using hfound

/-- A text that the search finds in every tag that contains it has no open sigma. -/
theorem not_hasOpenSigma_of_searched {text : String}
    (h : ∀ rs tag, tag ∈ (Facets.ofRecords rs).tagCounts.names →
      Text.occursIn (Text.trim text) tag = true →
        tag ∈ ((Facets.ofRecords rs).searchTags text).names) :
    ¬ Text.HasOpenSigma (Text.trim text).toList := by
  have htrimmed : Text.IsTrimmed (Text.trim text).toList := by
    rw [Text.trim, String.toList_ofList]
    exact Text.isTrimmed_trimChars _
  have hletter : Text.isBlank 'A' = false := by decide
  -- Every trimmed text that is not empty can be a tag.
  have hfound : ∀ cs, cs ≠ [] → Text.IsTrimmed cs → (Text.trim text).toList <:+: cs →
      Text.lowerChars (Text.trim text).toList <:+: Text.lowerChars cs := by
    intro cs hne hcs hwithin
    have htag : Text.trim (String.ofList cs) = String.ofList cs := by
      rw [Text.trim, String.toList_ofList, hcs.trimChars_eq]
    have hlisted := mem_tagCounts_bareBook htag (by simpa using hne)
    have hoccurs : Text.occursIn (Text.trim text) (String.ofList cs) = true := by
      rwa [Text.occursIn_iff, String.toList_ofList]
    have hsearched := (Facets.mem_searchTags_iff.mp (h _ _ hlisted hoccurs)).2
    rwa [occursInLower_lower_iff, String.toList_ofList] at hsearched
  intro hopen
  rcases hopen.not_within with hfront | hback
  · exact hfront (hfound _ (by simp) (htrimmed.cons hletter) ⟨['A'], [], by simp⟩)
  · exact hback (hfound _ (by simp) (htrimmed.concat hletter) ⟨[], ['A'], by simp⟩)

/-- **When literal occurrences are found.**  A token that is not limited finds a text in every
record that contains it exactly when the text has no open sigma.  The search for tags finds a text
in every listed tag that contains it, trimmed, exactly when the trimmed text has none. -/
theorem literals_found_iff (kind : TokenKind) (text : String) :
    ((∀ r : Record, r.Contains text → (⟨kind, text, none, false⟩ : Token).isMatch r = true) ↔
        ¬ Text.HasOpenSigma text.toList) ∧
      ((∀ rs tag, tag ∈ (Facets.ofRecords rs).tagCounts.names →
          Text.occursIn (Text.trim text) tag = true →
            tag ∈ ((Facets.ofRecords rs).searchTags text).names) ↔
        ¬ Text.HasOpenSigma (Text.trim text).toList) := by
  refine ⟨⟨not_hasOpenSigma_of_found, fun h r hcontains => ?_⟩,
    ⟨not_hasOpenSigma_of_searched, fun h rs tag hlisted hoccurs => ?_⟩⟩
  · rw [Token.isMatch_plain_iff]
    rcases hcontains with htitle | hauthors | ⟨tag, htag, hoccurs⟩ | hpublisher
    · exact Or.inl (occursInLower_of_occursIn h htitle)
    · exact Or.inr (Or.inl (occursInLower_of_occursIn h hauthors))
    · exact Or.inr (Or.inr (Or.inl ⟨tag, htag, occursInLower_of_occursIn h hoccurs⟩))
    · exact Or.inr (Or.inr (Or.inr (occursInLower_of_occursIn h hpublisher)))
  · exact Facets.mem_searchTags_iff.mpr ⟨hlisted, occursInLower_of_occursIn h hoccurs⟩

/-- A name that is missed in a longer one, as a title and as a tag: it ends with a sigma. -/
theorem literals_missed_sigma :
    (Record.Contains { id := 1, title := "ΟΔΥΣΣΕΙΑ" } "ΟΔΥΣ" ∧
        (⟨.term, "ΟΔΥΣ", none, false⟩ : Token).isMatch { id := 1, title := "ΟΔΥΣΣΕΙΑ" } = false) ∧
      ("ΟΔΥΣΣΕΙΑ" ∈ (Facets.ofRecords [bareBook "ΟΔΥΣΣΕΙΑ"]).tagCounts.names ∧
        "ΟΔΥΣΣΕΙΑ" ∉ ((Facets.ofRecords [bareBook "ΟΔΥΣΣΕΙΑ"]).searchTags "ΟΔΥΣ").names) ∧
      ¬ ((∀ (text : String) (r : Record), r.Contains text →
          (⟨.term, text, none, false⟩ : Token).isMatch r = true) ∧
        ∀ (text : String) (rs : List Record) (tag : String),
          tag ∈ (Facets.ofRecords rs).tagCounts.names →
            Text.occursIn (Text.trim text) tag = true →
              tag ∈ ((Facets.ofRecords rs).searchTags text).names) := by
  have hcontains : Record.Contains { id := 1, title := "ΟΔΥΣΣΕΙΑ" } "ΟΔΥΣ" :=
    Or.inl (by decide +kernel)
  have hmissed : (⟨.term, "ΟΔΥΣ", none, false⟩ : Token).isMatch
      { id := 1, title := "ΟΔΥΣΣΕΙΑ" } = false := by decide +kernel
  refine ⟨⟨hcontains, hmissed⟩, ⟨?_, ?_⟩, fun hall => ?_⟩
  · exact mem_tagCounts_bareBook (by decide +kernel) (by decide)
  · rw [Facets.mem_searchTags_iff]
    decide +kernel
  · have hfound := hall.1 _ _ hcontains
    rw [hmissed] at hfound
    exact absurd hfound (by decide)

end Catalogue
