import Catalogue.Proofs.Query.Rendering
import Catalogue.Proofs.Selection.Filtering

/-!
# Composing queries

A query without quotes can stand in front of another one with a gap between them.  Its pieces stay
what they are: a dash or a field name at its end is in front of a break as before, and no phrase
crosses the gap (`Cut.append`).  So the tokens of the two queries come one after the other
(`parse_append`), and what the whole says about a record is told by what its parts say
(`answer_composed`): `OR` joins what the parts find, a gap or `AND` asks for both.
-/

namespace Catalogue

namespace Query

theorem AtBreak.append {text more : List Char} (h : AtBreak text) (hmore : AtBreak more) :
    AtBreak (text ++ more) := by
  cases text with
  | nil => exact hmore
  | cons c text => exact h

/-- A value that starts in a text starts in every longer one. -/
theorem not_atBreak_append {text : List Char} (h : ¬ AtBreak text) (more : List Char) :
    ¬ AtBreak (text ++ more) := by
  cases text with
  | nil => exact absurd trivial h
  | cons c text => exact h

section Append

variable {text rest more : List Char}

/-- A dash reads the same with a break behind the text. -/
theorem ReadsDash.append {dash : Bool} (h : ReadsDash text dash rest) (hmore : AtBreak more) :
    ReadsDash (text ++ more) dash (rest ++ more) := by
  cases h with
  | dash hvalue => exact .dash (not_atBreak_append hvalue more)
  | literal hbreak =>
      refine .literal fun after hafter => ?_
      have hmark : ∀ c ∈ ['-'], Text.isBlank c = false := by simp; decide
      obtain ⟨tail, rfl, rfl⟩ := word_split hmark hmore hafter
      exact (hbreak tail rfl).append hmore

/-- A field name reads the same with a break behind the text. -/
theorem ReadsField.append {field : Option (List Char)}
    (h : ReadsField IsFieldVariant text field rest) (hmore : AtBreak more) :
    ReadsField IsFieldVariant (text ++ more) field (rest ++ more) := by
  cases h with
  | @field name rest hname hvalue =>
      have hread : ReadsField IsFieldVariant (name ++ ':' :: (rest ++ more)) (some name)
          (rest ++ more) := .field hname (not_atBreak_append hvalue more)
      simpa using hread
  | literal hbreak =>
      refine .literal fun name after hname hafter => ?_
      have hmark : text ++ more = (name ++ [':']) ++ after := by simpa using hafter
      obtain ⟨tail, hsplit, rfl⟩ := word_split hname.colon_blankless hmore hmark
      exact (hbreak name tail hname (by simpa using hsplit)).append hmore

/-- A body without quotes reads the same with a break behind the text. -/
theorem ReadsBody.append {body : Body} (h : ReadsBody text body rest) (hmore : AtBreak more)
    (hquote : '"' ∉ text) : ReadsBody (text ++ more) body (rest ++ more) := by
  cases h with
  | phrase => simp at hquote
  | @word cs rest hne hblank hrest hunopened =>
      rw [List.append_assoc]
      refine .word hne hblank (hrest.append hmore) fun hopens => hquote ?_
      obtain ⟨tail, htext, -, -⟩ := opensPhrase_iff.mp hopens
      obtain ⟨c, cs, rfl⟩ := List.exists_cons_of_ne_nil hne
      obtain ⟨rfl, -⟩ := List.cons.inj htext
      exact List.mem_cons_self

/-- A piece without quotes reads the same with a break behind the text. -/
theorem ReadsPiece.append {piece : Piece} (h : ReadsPiece IsFieldVariant text piece rest)
    (hmore : AtBreak more) (hquote : '"' ∉ text) :
    ReadsPiece IsFieldVariant (text ++ more) piece (rest ++ more) := by
  obtain ⟨hdash, hfield, hbody⟩ := h
  refine .piece (hdash.append hmore) (hfield.append hmore) (hbody.append hmore fun hmem => ?_)
  refine hquote ?_
  rw [hdash.text_eq, hfield.text_eq]
  exact List.mem_append_right _ (List.mem_append_right _ hmem)

/-- Blanks in front of a text change nothing. -/
theorem Cut.blank_append {names : List Char → Prop} {gap : List Char} {ps : List Piece}
    (hgap : ∀ c ∈ gap, Text.isBlank c = true) (h : Cut names text ps) :
    Cut names (gap ++ text) ps := by
  cases h with
  | gap hblank =>
      refine .gap fun c hc => ?_
      exact (List.mem_append.mp hc).elim (hgap c) (hblank c)
  | @piece gap' rest piece ps hblank hreads hrest =>
      rw [← List.append_assoc]
      refine .piece (fun c hc => ?_) hreads hrest
      exact (List.mem_append.mp hc).elim (hgap c) (hblank c)

/-- **Cuts compose.**  A text without quotes and one that starts with a break are cut apart. -/
theorem Cut.append {ps ps' : List Piece} (h : Cut IsFieldVariant text ps)
    (h' : Cut IsFieldVariant more ps') (hmore : AtBreak more) (hquote : '"' ∉ text) :
    Cut IsFieldVariant (text ++ more) (ps ++ ps') := by
  induction h with
  | gap hgap => exact h'.blank_append hgap
  | @piece gap rest piece ps hgap hreads _ ih =>
      simp only [List.mem_append, not_or] at hquote
      have hread := hreads.append hmore (by simpa using hquote.2)
      have hcut := Cut.piece hgap (by simpa using hread) (ih hquote.2.2)
      simpa using hcut

end Append

/-- The pieces of texts with a gap between them. -/
theorem pieces_append {text gap more : List Char} (hquote : '"' ∉ text) (hne : gap ≠ [])
    (hgap : ∀ c ∈ gap, Text.isBlank c = true) :
    pieces (text ++ (gap ++ more)) = pieces text ++ pieces more := by
  obtain ⟨c, cs, rfl⟩ := List.exists_cons_of_ne_nil hne
  have hbreak : AtBreak (c :: cs ++ more) := hgap c List.mem_cons_self
  exact pieces_eq_iff.mpr
    ((cut_pieces text).append ((cut_pieces more).blank_append hgap) hbreak hquote)

section Reading

variable {first second : String} {ts ts' : List Token}

/-- **Queries compose.**  The tokens of a query without quotes and of one behind a gap come one
after the other. -/
theorem parse_append {gap : String} (hquote : '"' ∉ first.toList) (hne : gap ≠ "")
    (hgap : Text.isBlankText gap = true) (hfirst : parse first = .ok ts)
    (hsecond : parse second = .ok ts') : parse (first ++ gap ++ second) = .ok (ts ++ ts') := by
  have hblank : ∀ c ∈ gap.toList, Text.isBlank c = true := List.all_eq_true.mp hgap
  have hsome : gap.toList ≠ [] := by simpa using hne
  rw [parse, String.toList_append, String.toList_append, List.append_assoc,
    pieces_append hquote hsome hblank]
  exact tokensOf_eq_ok_iff.mpr
    (List.rel_append (tokensOf_eq_ok_iff.mp hfirst) (tokensOf_eq_ok_iff.mp hsecond))

/-- The token of an operator. -/
def operatorToken (op : BooleanOperator) : Token :=
  ⟨.operator, op.name, none, false⟩

/-- The name of an operator reads as the operator. -/
theorem parse_name (op : BooleanOperator) : parse op.name = .ok [operatorToken op] := by
  have hlength : op.name.toList.length ≤ 3 := by cases op <;> decide
  rw [parse, pieces_eq_piecesWithin hlength]
  cases op <;> rfl

/-- Two queries with an operator between them. -/
theorem parse_operator (op : BooleanOperator) (hquote : '"' ∉ first.toList)
    (hfirst : parse first = .ok ts) (hsecond : parse second = .ok ts') :
    parse (first ++ (" " ++ op.name ++ " ") ++ second) = .ok (ts ++ operatorToken op :: ts') := by
  have hname : '"' ∉ op.name.toList := by cases op <;> decide
  have hrest : parse (op.name ++ " " ++ second) = .ok ([operatorToken op] ++ ts') :=
    parse_append hname (by decide) (by decide) (parse_name op) hsecond
  have hwhole : parse (first ++ " " ++ (op.name ++ " " ++ second)) =
      .ok (ts ++ ([operatorToken op] ++ ts')) :=
    parse_append hquote (by decide) (by decide) hfirst hrest
  simpa [String.append_assoc] using hwhole

end Reading

/-- What a query says about a record. -/
def answer (query : String) (r : Record) : Except UnknownChoice Bool :=
  match parse query with
  | .error e => .error e
  | .ok tokens => isMatch tokens r

theorem answer_of_parse {query : String} {ts : List Token} (h : parse query = .ok ts)
    (r : Record) :
    answer query r = .ok (Text.isBlankText query || someGroupMatches (segmentGroups ts) r) := by
  have hblank : ts.isEmpty = Text.isBlankText query := by
    rw [Bool.eq_iff_iff, List.isEmpty_iff, eq_nil_iff_of_parse h]
  rw [answer, h, ← hblank]
  exact isMatch_of_parse h r

/-- A query with tokens is not blank. -/
theorem isBlankText_eq_false {query : String} {ts : List Token} (h : parse query = .ok ts)
    {t : Token} (ht : t ∈ ts) : Text.isBlankText query = false := by
  rw [Bool.eq_false_iff, ne_eq, ← eq_nil_iff_of_parse h]
  exact List.ne_nil_of_mem ht

/-- The groups of a query find what it finds unless it is blank: then there are none. -/
theorem someGroupMatches_eq {query : String} {ts : List Token} (h : parse query = .ok ts)
    (r : Record) :
    someGroupMatches (segmentGroups ts) r =
      (!Text.isBlankText query &&
        (Text.isBlankText query || someGroupMatches (segmentGroups ts) r)) := by
  cases hblank : Text.isBlankText query with
  | false => simp
  | true =>
      obtain rfl := (eq_nil_iff_of_parse h).mpr hblank
      rfl

/-- An `OR` joins what the tokens around it find. -/
theorem someGroupMatches_or {t : Token} (h : t.isOr = true) (ts ts' : List Token) (r : Record) :
    someGroupMatches (segmentGroups (ts ++ t :: ts')) r =
      (someGroupMatches (segmentGroups ts) r || someGroupMatches (segmentGroups ts') r) := by
  rw [segmentGroups_append_or h, someGroupMatches, List.any_append]
  rfl

/-- Tokens that search for something, with no `OR` among them. -/
structure IsConjunction (ts : List Token) : Prop where
  free : ∀ t ∈ ts, t.isOr = false
  searches : ∃ t ∈ ts, t.isOperator = false

/-- A conjunction finds what all its tokens that are searched for match. -/
theorem IsConjunction.someGroupMatches_eq {ts : List Token} (h : IsConjunction ts) (r : Record) :
    someGroupMatches (segmentGroups ts) r = (searched ts).all (·.isMatch r) := by
  obtain ⟨t, ht, hsearched⟩ := h.searches
  have hne : searched ts ≠ [] := by
    refine List.ne_nil_of_mem (a := t) ?_
    simp [searched, ht, hsearched]
  rw [segmentGroups_of_free h.free, nonempty, if_neg (by simpa using hne)]
  simp [someGroupMatches]

/-- Operators other than `OR` keep conjunctions together. -/
theorem IsConjunction.append {ts between ts' : List Token} (h : IsConjunction ts)
    (h' : IsConjunction ts') (hbetween : ∀ t ∈ between, t.isFiller = true) :
    IsConjunction (ts ++ (between ++ ts')) where
  free t ht := by
    simp only [List.mem_append] at ht
    rcases ht with ht | ht | ht
    · exact h.free t ht
    · exact Token.isOr_eq_false_of_isFiller (hbetween t ht)
    · exact h'.free t ht
  searches := by
    obtain ⟨t, ht, hsearched⟩ := h.searches
    exact ⟨t, List.mem_append_left _ ht, hsearched⟩

/-- Joined conjunctions find what both of them find. -/
theorem IsConjunction.someGroupMatches_append {ts between ts' : List Token}
    (h : IsConjunction ts) (h' : IsConjunction ts')
    (hbetween : ∀ t ∈ between, t.isFiller = true) (r : Record) :
    someGroupMatches (segmentGroups (ts ++ (between ++ ts'))) r =
      (someGroupMatches (segmentGroups ts) r && someGroupMatches (segmentGroups ts') r) := by
  have hnone : searched between = [] := by
    rw [searched, List.filter_eq_nil_iff]
    intro t ht
    simp [(Token.isFiller_eq_true_iff.mp (hbetween t ht)).1]
  rw [(h.append h' hbetween).someGroupMatches_eq, h.someGroupMatches_eq, h'.someGroupMatches_eq,
    searched_append, searched_append, hnone, List.nil_append, List.all_append]

/-- What a query of two conjunctions says about a record. -/
theorem IsConjunction.answer_append {query : String} {ts between ts' : List Token}
    (h : IsConjunction ts) (h' : IsConjunction ts')
    (hbetween : ∀ t ∈ between, t.isFiller = true)
    (hparse : parse query = .ok (ts ++ (between ++ ts'))) (r : Record) :
    answer query r =
      .ok (someGroupMatches (segmentGroups ts) r && someGroupMatches (segmentGroups ts') r) := by
  obtain ⟨t, ht, -⟩ := (h.append h' hbetween).searches
  rw [answer_of_parse hparse, isBlankText_eq_false hparse ht, Bool.false_or,
    h.someGroupMatches_append h' hbetween]

/-- **What composed queries say.**  Let a query without quotes and a query behind it be readable.
With a gap between them the tokens of the one come in front of those of the other.  With `OR`
between them a record matches exactly when it matches one that is not blank.  If neither has an
`OR` and both search for something, a record matches the two with `AND` or with a gap between them
exactly when it matches both. -/
theorem answer_composed {first gap second : String} {ts ts' : List Token}
    (hquote : '"' ∉ first.toList) (hne : gap ≠ "") (hgap : Text.isBlankText gap = true)
    (hfirst : parse first = .ok ts) (hsecond : parse second = .ok ts') :
    parse (first ++ gap ++ second) = .ok (ts ++ ts') ∧
      ∀ r, ∃ inFirst inSecond, answer first r = .ok inFirst ∧ answer second r = .ok inSecond ∧
        answer (first ++ " OR " ++ second) r =
          .ok (!Text.isBlankText first && inFirst || !Text.isBlankText second && inSecond) ∧
        (IsConjunction ts → IsConjunction ts' →
          answer (first ++ " AND " ++ second) r = .ok (inFirst && inSecond) ∧
            answer (first ++ gap ++ second) r = .ok (inFirst && inSecond)) := by
  have hwhole := parse_append hquote hne hgap hfirst hsecond
  have hor : parse (first ++ " OR " ++ second) = .ok (ts ++ operatorToken .or :: ts') :=
    parse_operator .or hquote hfirst hsecond
  have hand : parse (first ++ " AND " ++ second) = .ok (ts ++ ([operatorToken .and] ++ ts')) :=
    parse_operator .and hquote hfirst hsecond
  refine ⟨hwhole, fun r => ⟨_, _, answer_of_parse hfirst r, answer_of_parse hsecond r, ?_, ?_⟩⟩
  · have hmem : operatorToken .or ∈ ts ++ operatorToken .or :: ts' := by simp
    rw [answer_of_parse hor, isBlankText_eq_false hor hmem, Bool.false_or,
      someGroupMatches_or rfl, ← someGroupMatches_eq hfirst, ← someGroupMatches_eq hsecond]
  · intro hc hc'
    obtain ⟨t, ht, -⟩ := hc.searches
    obtain ⟨t', ht', -⟩ := hc'.searches
    rw [isBlankText_eq_false hfirst ht, isBlankText_eq_false hsecond ht', Bool.false_or,
      Bool.false_or]
    have hfiller : ∀ t ∈ [operatorToken .and], t.isFiller = true := by simp; rfl
    have hnone : ∀ t ∈ ([] : List Token), t.isFiller = true := by simp
    exact ⟨hc.answer_append hc' hfiller hand r, hc.answer_append hc' hnone hwhole r⟩

/-- A dash at the end of the first query and a field name that nothing follows; the second query
opens a phrase at once. -/
theorem answer_composed_dash :
    '"' ∉ "dune -title: -".toList ∧ "\t " ≠ "" ∧ Text.isBlankText "\t " = true ∧
      parse "dune -title: -" = .ok [⟨.term, "dune", none, false⟩, ⟨.term, "title:", none, true⟩,
        ⟨.term, "-", none, false⟩] ∧
      parse "\"a b\" not tag:x" = .ok [⟨.phrase, "a b", none, false⟩,
        ⟨.operator, "NOT", none, false⟩, ⟨.term, "x", some .tag, false⟩] ∧
      parse ("dune -title: -" ++ "\t " ++ "\"a b\" not tag:x") = .ok
        [⟨.term, "dune", none, false⟩, ⟨.term, "title:", none, true⟩, ⟨.term, "-", none, false⟩,
          ⟨.phrase, "a b", none, false⟩, ⟨.operator, "NOT", none, false⟩,
          ⟨.term, "x", some .tag, false⟩] ∧
      ∃ inFirst inSecond,
        answer "dune -title: -" { id := 1, title := "Dune - a b", tags := ["x"] } = .ok inFirst ∧
        answer "\"a b\" not tag:x" { id := 1, title := "Dune - a b", tags := ["x"] } =
          .ok inSecond ∧
        answer ("dune -title: -" ++ " AND " ++ "\"a b\" not tag:x")
          { id := 1, title := "Dune - a b", tags := ["x"] } = .ok (inFirst && inSecond) := by
  have hfirst : parse "dune -title: -" = .ok [⟨.term, "dune", none, false⟩,
      ⟨.term, "title:", none, true⟩, ⟨.term, "-", none, false⟩] := by
    rw [parse, pieces_eq_piecesWithin (n := 14) (by simp)]
    rfl
  have hsecond : parse "\"a b\" not tag:x" = .ok [⟨.phrase, "a b", none, false⟩,
      ⟨.operator, "NOT", none, false⟩, ⟨.term, "x", some .tag, false⟩] := by
    rw [parse, pieces_eq_piecesWithin (n := 15) (by simp)]
    rfl
  have hne : "\t " ≠ "" := by decide
  obtain ⟨hparse, hanswer⟩ := answer_composed (by decide) hne (by decide) hfirst hsecond
  obtain ⟨inFirst, inSecond, hin, hin', -, hboth⟩ :=
    hanswer { id := 1, title := "Dune - a b", tags := ["x"] }
  have hc : IsConjunction [⟨.term, "dune", none, false⟩, ⟨.term, "title:", none, true⟩,
      ⟨.term, "-", none, false⟩] := ⟨by decide, by decide⟩
  have hc' : IsConjunction [⟨.phrase, "a b", none, false⟩, ⟨.operator, "NOT", none, false⟩,
      ⟨.term, "x", some .tag, false⟩] := ⟨by decide, by decide⟩
  exact ⟨by decide, hne, by decide, hfirst, hsecond, hparse, inFirst, inSecond, hin, hin',
    (hboth hc hc').1⟩

end Query

end Catalogue
