import Catalogue.Proofs.Selection.Filtering
import Catalogue.Proofs.Text.AsciiCase

/-!
# The case of ASCII letters in a search

A query with its capital letters of ASCII made small is scanned into the same pieces with their
letters made small (`pieces_map_toLower`), since none of the characters that the scanner looks for
is a letter and the letters of field names match in both cases.  The pieces stand for the same
tokens with small letters in their values, and no operator changes (`parse_asciiLower`).  As a token
looks for the lower case of its value in the lower case of texts, it matches the same records, also
when the letters of their texts change case.  So two searches that differ in the case of ASCII
letters keep the records at the same positions (`ascii_case_insensitive`).
-/

namespace Catalogue

/-- A body with its capital letters of ASCII made small. -/
def Body.asciiLower : Body → Body
  | .phrase cs => .phrase (cs.map Char.toLower)
  | .word cs => .word (cs.map Char.toLower)

/-- A piece with its capital letters of ASCII made small. -/
def Piece.asciiLower (piece : Piece) : Piece :=
  ⟨piece.dash, piece.field.map (·.map Char.toLower), piece.body.asciiLower⟩

/-- A token with the capital letters of ASCII in its value made small, unless it is an operator. -/
def Token.asciiLower (t : Token) : Token :=
  if t.isOperator then t else { t with value := Text.asciiLower t.value }

namespace Query

section Scanning

/-- A capital letter and its small one match the same letters of field names. -/
theorem isVariantOf_toLower (letter c : Char) :
    isVariantOf letter c.toLower = isVariantOf letter c := by
  simp (disch := decide) only [isVariantOf, Char.toLower_toLower_eq_toLower, Text.toLower_eq_iff]

/-- Whether a character ends a word does not depend on the case of a letter. -/
theorem not_isBlank_comp_toLower :
    (fun c => !Text.isBlank c) ∘ Char.toLower = fun c => !Text.isBlank c := by
  funext c
  simp

/-- Whether a character ends a phrase does not depend on the case of a letter. -/
theorem ne_quote_comp_toLower :
    (fun c => decide (c ≠ '"')) ∘ Char.toLower = fun c => decide (c ≠ '"') := by
  funext c
  simp (disch := decide) only [Function.comp_apply, Text.toLower_eq_iff, ne_eq]

/-- What is split off and what is left of a text, with their letters made small. -/
def lowerBoth (found : List Char × List Char) : List Char × List Char :=
  (found.1.map Char.toLower, found.2.map Char.toLower)

/-- A field name is split off a text with small letters where it is split off the text. -/
theorem splitName?_map_toLower (name text : List Char) :
    splitName? name (text.map Char.toLower) = (splitName? name text).map lowerBoth := by
  induction name generalizing text with
  | nil =>
      cases text with
      | nil => rfl
      | cons c text =>
          simp (disch := decide) only [List.map_cons, splitName?, Text.toLower_eq_iff]
          split <;> rfl
  | cons letter name ih =>
      cases text with
      | nil => rfl
      | cons c text =>
          simp only [List.map_cons, splitName?, isVariantOf_toLower, ih]
          split
          · cases splitName? name text <;> rfl
          · rfl

/-- The names of the fields are tried in the same order, so the same one is split off. -/
theorem splitField?_map_toLower (text : List Char) :
    splitField? (text.map Char.toLower) = (splitField? text).map lowerBoth := by
  rw [splitField?, splitField?, List.map_findSome?]
  exact congrArg (List.findSome? · SearchField.names)
    (funext fun entry => splitName?_map_toLower entry.1.toList text)

/-- A phrase ends at the same quote. -/
theorem splitPhrase?_map_toLower (text : List Char) :
    splitPhrase? (text.map Char.toLower) = (splitPhrase? text).map lowerBoth := by
  cases text with
  | nil => rfl
  | cons c text =>
      simp (disch := decide) only [List.map_cons, splitPhrase?, Text.toLower_eq_iff,
        List.takeWhile_map, List.dropWhile_map, ne_quote_comp_toLower]
      split
      · cases text.takeWhile (· ≠ '"') <;> cases text.dropWhile (· ≠ '"') <;> rfl
      · rfl

/-- A word ends at the same blank. -/
theorem splitWord?_map_toLower (text : List Char) :
    splitWord? (text.map Char.toLower) = (splitWord? text).map lowerBoth := by
  simp only [splitWord?, List.takeWhile_map, List.dropWhile_map, not_isBlank_comp_toLower]
  cases text.takeWhile (!Text.isBlank ·) <;> rfl

theorem splitBody?_map_toLower (text : List Char) :
    splitBody? (text.map Char.toLower) =
      (splitBody? text).map (Prod.map Body.asciiLower (List.map Char.toLower)) := by
  rw [splitBody?, splitBody?, splitPhrase?_map_toLower, splitWord?_map_toLower]
  cases splitPhrase? text with
  | some found => rfl
  | none => cases splitWord? text <;> rfl

/-- The same field limits a piece of a text with small letters, and where no field does, the whole
piece is literal in both. -/
theorem splitScoped?_map_toLower (dash : Bool) (text : List Char) :
    splitScoped? dash (text.map Char.toLower) =
      (splitScoped? dash text).map (Prod.map Piece.asciiLower (List.map Char.toLower)) := by
  have hliteral :
      (splitBody? (text.map Char.toLower)).map (fun found => (⟨dash, none, found.1⟩, found.2)) =
        ((splitBody? text).map fun found => (⟨dash, none, found.1⟩, found.2)).map
          (Prod.map Piece.asciiLower (List.map Char.toLower)) := by
    rw [splitBody?_map_toLower]
    cases splitBody? text <;> rfl
  simp only [splitScoped?, splitField?_map_toLower]
  cases splitField? text with
  | none => exact hliteral
  | some found =>
      simp only [Option.map_some, lowerBoth, Option.bind_eq_bind, Option.bind_some]
      rw [splitBody?_map_toLower found.2]
      cases splitBody? found.2 with
      | none => exact hliteral
      | some body => rfl

theorem splitPiece?_map_toLower (text : List Char) :
    splitPiece? (text.map Char.toLower) =
      (splitPiece? text).map (Prod.map Piece.asciiLower (List.map Char.toLower)) := by
  cases text with
  | nil => rfl
  | cons c text =>
      simp (disch := decide) only [List.map_cons, splitPiece?, Text.toLower_eq_iff,
        splitScoped?_map_toLower]
      have hliteral := splitScoped?_map_toLower false (c :: text)
      by_cases hdash : c = '-'
      · simp only [hdash, if_true] at hliteral ⊢
        cases splitScoped? true text with
        | none => exact hliteral
        | some found => rfl
      · simp only [hdash, if_false]
        exact hliteral

/-- A text with small letters is cut into as many pieces at the same blanks. -/
theorem piecesWithin_map_toLower (n : Nat) (text : List Char) :
    piecesWithin n (text.map Char.toLower) = (piecesWithin n text).map Piece.asciiLower := by
  induction n generalizing text with
  | zero => rfl
  | succ n ih =>
      have hblank : Text.isBlank ∘ Char.toLower = Text.isBlank := funext Text.isBlank_toLower
      rw [piecesWithin, piecesWithin, List.dropWhile_map, hblank, splitPiece?_map_toLower]
      cases splitPiece? (text.dropWhile Text.isBlank) with
      | none => rfl
      | some found => exact congrArg (_ :: ·) (ih found.2)

/-- **Scanning does not see the case of ASCII letters.** -/
theorem pieces_map_toLower (text : List Char) :
    pieces (text.map Char.toLower) = (pieces text).map Piece.asciiLower := by
  have hlength : (text.map Char.toLower).length ≤ text.length := (List.length_map _).le
  rw [pieces_eq_piecesWithin hlength, pieces_eq_piecesWithin (Nat.le_refl text.length),
    piecesWithin_map_toLower]

end Scanning

/-- A piece stands for an operator in every case of its letters, and a field is named in small
letters before it is looked up. -/
theorem tokenOf_asciiLower (piece : Piece) :
    tokenOf piece.asciiLower = (tokenOf piece).map Token.asciiLower := by
  obtain ⟨dash, field, body⟩ := piece
  cases field with
  | none =>
      cases body with
      | phrase cs =>
          simp [tokenOf, Piece.asciiLower, Body.asciiLower, Token.asciiLower, Token.isOperator,
            Text.asciiLower, Except.map]
      | word cs =>
          simp only [tokenOf, Piece.asciiLower, Body.asciiLower, Option.map_none,
            Text.upperChars_map_toLower]
          split <;> simp [Token.asciiLower, Token.isOperator, Text.asciiLower, Except.map]
  | some written =>
      simp only [tokenOf, Piece.asciiLower, Option.map_some, Text.lowerChars_map_toLower]
      cases SearchField.ofName (String.ofList (Text.lowerChars written)) with
      | error e => rfl
      | ok field =>
          cases body <;> simp [Body.asciiLower, Token.asciiLower, Token.isOperator,
            Text.asciiLower, Except.map]

/-- Reading pieces with small letters stops at the same unknown field. -/
theorem tokensOf_map_asciiLower (ps : List Piece) :
    tokensOf (ps.map Piece.asciiLower) = (tokensOf ps).map (List.map Token.asciiLower) := by
  induction ps with
  | nil => rfl
  | cons piece ps ih =>
      rw [List.map_cons, tokensOf, tokensOf, tokenOf_asciiLower, ih]
      cases tokenOf piece with
      | error e => rfl
      | ok t => cases tokensOf ps <;> rfl

/-- **Reading a query** with small letters gives the same tokens with small letters. -/
theorem parse_asciiLower (query : String) :
    parse (Text.asciiLower query) = (parse query).map (List.map Token.asciiLower) := by
  rw [parse, Text.asciiLower, String.toList_ofList, pieces_map_toLower, tokensOf_map_asciiLower,
    parse]

theorem isOperator_asciiLower (t : Token) : t.asciiLower.isOperator = t.isOperator := by
  unfold Token.asciiLower
  split <;> rfl

/-- Operators stay as they are, also unknown ones. -/
theorem operator?_asciiLower (t : Token) : t.asciiLower.operator? = t.operator? := by
  by_cases hoperator : t.isOperator = true
  · rw [Token.asciiLower, if_pos hoperator]
  · rw [Token.operator?, Token.operator?, isOperator_asciiLower, if_neg hoperator, if_neg hoperator]

theorem nonempty_map_asciiLower (group : List Token) :
    nonempty (group.map Token.asciiLower) = (nonempty group).map (List.map Token.asciiLower) := by
  cases group <;> rfl

/-- Tokens with small letters are grouped at the same operators. -/
theorem groupsAfter_map_asciiLower (current ts : List Token) :
    groupsAfter (current.map Token.asciiLower) (ts.map Token.asciiLower) =
      (groupsAfter current ts).map (List.map (List.map Token.asciiLower)) := by
  induction ts generalizing current with
  | nil => exact congrArg Except.ok (nonempty_map_asciiLower current)
  | cons t ts ih =>
      have hnext := ih (current ++ [t])
      rw [List.map_append, List.map_singleton] at hnext
      have hempty : groupsAfter [] (ts.map Token.asciiLower) =
          (groupsAfter [] ts).map (List.map (List.map Token.asciiLower)) := ih []
      rw [List.map_cons, groupsAfter, groupsAfter, operator?_asciiLower]
      cases t.operator? with
      | error e => rfl
      | ok op =>
          cases op with
          | none => exact hnext
          | some op =>
              cases op with
              | and => exact ih current
              | not => exact ih current
              | or =>
                  simp only [hempty, nonempty_map_asciiLower]
                  cases groupsAfter [] ts with
                  | error e => rfl
                  | ok groups => simp [Except.map]

end Query

variable {r s : Record}

/-- A token looks for the lower case of its value, which small letters do not change. -/
theorem Token.occursInRecord_asciiLower (t : Token) (r : Record) :
    t.asciiLower.occursInRecord r = t.occursInRecord r := by
  unfold Token.asciiLower
  split
  · rfl
  · simp only [Token.occursInRecord, Text.lower_asciiLower]

/-- A token matches the same records with small letters. -/
theorem Token.isMatch_asciiLower (t : Token) (r : Record) :
    t.asciiLower.isMatch r = t.isMatch r := by
  have hnegated : t.asciiLower.negated = t.negated := by
    unfold Token.asciiLower
    split <;> rfl
  rw [Token.isMatch, Token.isMatch, hnegated, Token.occursInRecord_asciiLower]

namespace CompiledQuery

/-- A query with the values of its tokens in small letters. -/
def asciiLower (q : CompiledQuery) : CompiledQuery :=
  ⟨q.tokens.map Token.asciiLower, q.groups.map (List.map Token.asciiLower)⟩

/-- A query matches the same records with small letters. -/
theorem isMatch_asciiLower (q : CompiledQuery) (r : Record) :
    q.asciiLower.isMatch r = q.isMatch r := by
  have hgroup : (fun group : List Token => group.all (·.isMatch r)) ∘ List.map Token.asciiLower =
      fun group => group.all (·.isMatch r) := by
    funext group
    have htoken : (fun t : Token => t.isMatch r) ∘ Token.asciiLower = fun t => t.isMatch r :=
      funext fun t => t.isMatch_asciiLower r
    rw [Function.comp_apply, List.all_map, htoken]
  simp only [isMatch, isEmpty, asciiLower, List.isEmpty_map, Query.someGroupMatches, List.any_map,
    hgroup]

/-- **Compiling a query** with small letters gives the same groups with small letters. -/
theorem ofText_asciiLower (query : String) :
    ofText (Text.asciiLower query) = (ofText query).map asciiLower := by
  have hgroups : ∀ ts : List Token, Query.groups (ts.map Token.asciiLower) =
      (Query.groups ts).map (List.map (List.map Token.asciiLower)) :=
    Query.groupsAfter_map_asciiLower []
  rw [ofText, ofText, Query.parse_asciiLower]
  cases Query.parse query with
  | error e => rfl
  | ok ts =>
      simp only [Except.map, hgroups]
      cases Query.groups ts <;> rfl

end CompiledQuery

/-- Two records have the same searchable texts up to the case of ASCII letters. -/
structure SameTexts (r s : Record) : Prop where
  title : Text.asciiLower r.title = Text.asciiLower s.title
  titleSort : Text.asciiLower r.titleSort = Text.asciiLower s.titleSort
  authors : Text.asciiLower r.authors = Text.asciiLower s.authors
  authorSort : Text.asciiLower r.authorSort = Text.asciiLower s.authorSort
  publisher : Text.asciiLower r.publisher = Text.asciiLower s.publisher
  tags : r.tags.map Text.asciiLower = s.tags.map Text.asciiLower

/-- A text occurs in two texts alike if they differ in the case of ASCII letters only. -/
theorem occursInLower_congr {needle text text' : String}
    (h : Text.asciiLower text = Text.asciiLower text') :
    occursInLower needle text = occursInLower needle text' := by
  rw [occursInLower, occursInLower, ← Text.lower_asciiLower text, h, Text.lower_asciiLower]

theorem any_occursInLower_congr {needle : String} {texts texts' : List String}
    (h : texts.map Text.asciiLower = texts'.map Text.asciiLower) :
    texts.any (occursInLower needle) = texts'.any (occursInLower needle) := by
  have hlower : occursInLower needle ∘ Text.asciiLower = occursInLower needle := by
    funext text
    simp [occursInLower]
  rw [← hlower, ← List.any_map, h, List.any_map]

/-- A token matches records with the same texts alike. -/
theorem SameTexts.isMatch_eq (h : SameTexts r s) (t : Token) : t.isMatch r = t.isMatch s := by
  have hoccurs : t.occursInRecord r = t.occursInRecord s := by
    simp only [Token.occursInRecord, occursInLower_congr h.title,
      occursInLower_congr h.titleSort, occursInLower_congr h.authors,
      occursInLower_congr h.authorSort, occursInLower_congr h.publisher,
      any_occursInLower_congr h.tags]
  rw [Token.isMatch, Token.isMatch, hoccurs]

/-- A query matches records with the same texts alike. -/
theorem SameTexts.compiled_isMatch_eq (h : SameTexts r s) (q : CompiledQuery) :
    q.isMatch r = q.isMatch s := by
  simp only [CompiledQuery.isMatch, Query.someGroupMatches, h.isMatch_eq]

/-- The positions in a list of the records that a query keeps. -/
def CompiledQuery.positions (q : CompiledQuery) (records : List Record) : List Nat :=
  records.findIdxs q.isMatch

/-- A query keeps what stands at these positions. -/
theorem CompiledQuery.filter_eq (q : CompiledQuery) (records : List Record) :
    q.filter records = (q.positions records).filterMap (records[·]?) := by
  rw [filter, positions]
  induction records with
  | nil => rfl
  | cons r records ih =>
      have hshifted : ((records.findIdxs q.isMatch).map (· + 1)).filterMap ((r :: records)[·]?) =
          records.filter q.isMatch := by
        rw [List.filterMap_map, ih]
        rfl
      rw [List.filter_cons, List.findIdxs_cons, List.findIdxs_start, Nat.zero_add]
      split
      · rw [List.filterMap_cons_some (by rfl), hshifted]
      · rw [hshifted]

/-- Records with the same texts are kept at the same positions. -/
theorem CompiledQuery.positions_eq {q q' : CompiledQuery} (hq : q.asciiLower = q'.asciiLower)
    {rs rs' : List Record} (hrs : List.Forall₂ SameTexts rs rs') :
    q.positions rs = q'.positions rs' := by
  have hmatch : rs.map q.isMatch = rs'.map q'.isMatch := by
    induction hrs with
    | nil => rfl
    | @cons r r' rs rs' hr _ ih =>
        rw [List.map_cons, List.map_cons, ih, hr.compiled_isMatch_eq, ← q.isMatch_asciiLower, hq,
          q'.isMatch_asciiLower]
  have hpositions : ∀ (q : CompiledQuery) (records : List Record),
      q.positions records = (records.map q.isMatch).findIdxs id := by
    intro q records
    rw [List.findIdxs_map, Function.id_comp, positions]
  rw [hpositions, hpositions, hmatch]

/-- Two searches are alike: both queries are reported for the same reason, or both are read, and
then they keep the records at the same positions of their lists. -/
def SearchAlike (query query' : String) (rs rs' : List Record) : Prop :=
  (∃ e, Query.parse query = .error e ∧ Query.parse query' = .error e) ∨
    ∃ q q', (Query.parse query = .ok q.tokens ∧ Query.parse query' = .ok q'.tokens) ∧
      (CompiledQuery.ofText query = .ok q ∧ CompiledQuery.ofText query' = .ok q') ∧
      ∃ kept, (q.positions rs = kept ∧ q'.positions rs' = kept) ∧
        q.filter rs = kept.filterMap (rs[·]?) ∧ q'.filter rs' = kept.filterMap (rs'[·]?)

/-- **The case of ASCII letters never matters in a search**, neither in the query nor in the texts
that are searched. -/
theorem ascii_case_insensitive {query query' : String} {rs rs' : List Record}
    (hquery : Text.asciiLower query = Text.asciiLower query')
    (hrs : List.Forall₂ SameTexts rs rs') : SearchAlike query query' rs rs' := by
  have hparse := (Query.parse_asciiLower query).symm.trans
    ((congrArg Query.parse hquery).trans (Query.parse_asciiLower query'))
  have htext := (CompiledQuery.ofText_asciiLower query).symm.trans
    ((congrArg CompiledQuery.ofText hquery).trans (CompiledQuery.ofText_asciiLower query'))
  rcases map_eq_map_iff.mp hparse with ⟨e, hread, hread'⟩ | ⟨ts, ts', ⟨hread, hread'⟩, -⟩
  · exact Or.inl ⟨e, hread, hread'⟩
  · have hok := Query.ofText_of_parse hread
    have hok' := Query.ofText_of_parse hread'
    rw [hok, hok'] at htext
    have hpositions := CompiledQuery.positions_eq (Except.ok.inj htext) hrs
    exact Or.inr ⟨_, _, ⟨hread, hread'⟩, ⟨hok, hok'⟩, _, ⟨hpositions, rfl⟩,
      hpositions ▸ CompiledQuery.filter_eq _ rs, CompiledQuery.filter_eq _ rs'⟩

/-- A capital sigma behind a letter of another case, where it is final in both. -/
theorem ascii_case_insensitive_sigma :
    (Text.asciiLower "TITLE:xΣ or -\"A b\"" = Text.asciiLower "title:XΣ OR -\"a B\"" ∧
      List.Forall₂ SameTexts [{ id := 1, title := "XΣ", tags := ["New"] }]
        [{ id := 2, title := "xΣ", tags := ["nEW"] }]) ∧
    SearchAlike "TITLE:xΣ or -\"A b\"" "title:XΣ OR -\"a B\""
      [{ id := 1, title := "XΣ", tags := ["New"] }]
      [{ id := 2, title := "xΣ", tags := ["nEW"] }] := by
  have hquery : Text.asciiLower "TITLE:xΣ or -\"A b\"" =
      Text.asciiLower "title:XΣ OR -\"a B\"" := by decide +kernel
  have hrs : List.Forall₂ SameTexts [{ id := 1, title := "XΣ", tags := ["New"] }]
      [{ id := 2, title := "xΣ", tags := ["nEW"] }] :=
    .cons ⟨by decide +kernel, rfl, rfl, rfl, rfl, by decide +kernel⟩ .nil
  exact ⟨⟨hquery, hrs⟩, ascii_case_insensitive hquery hrs⟩

end Catalogue
