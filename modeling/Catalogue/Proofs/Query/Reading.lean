import Catalogue.Proofs.Query.Meaning

/-!
# Reading follows the grammar

When a query is read, its text is cut as the grammar says, with the names of the four fields in any
letter case as field names, and the tokens are what the pieces stand for.  Nothing but blanks lies
between the pieces, and the text of a token is that of its piece except for what `SpelledAs` names.
-/

namespace Catalogue.Query

/-- The text of a piece against its token.  Both texts agree, but the letter case of a field name or
of an operator may differ, and a dash in front of an operator is left out of the token. -/
inductive SpelledAs : List Char → Token → Prop
  | same {t : Token} (searched : t.isOperator = false) (unlimited : t.field = none) :
      SpelledAs t.text.toList t
  | field {t : Token} {field : SearchField} {written body : List Char}
      (searched : t.isOperator = false) (limited : t.field = some field)
      (spelled : SpellsField written field)
      (same : t.text.toList = dashText t.negated ++ (field.name.toList ++ ':' :: body)) :
      SpelledAs (dashText t.negated ++ (written ++ ':' :: body)) t
  | operator {t : Token} {op : BooleanOperator} {dash : Bool} {written : List Char}
      (combines : t.isOperator = true) (spelled : SpellsOperator written op)
      (same : t.text = op.name) : SpelledAs (dashText dash ++ written) t

/-- A piece that is an operator: a word that spells one, neither quoted nor limited to a field. -/
def IsOperatorPiece (piece : Piece) : Prop :=
  piece.field = none ∧ ∃ written op, piece.body = .word written ∧ SpellsOperator written op

/-- The piece that a token was read from. -/
theorem exists_piece_of_parse {query : String} {tokens : List Token} {t : Token}
    (h : parse query = .ok tokens) (ht : t ∈ tokens) :
    ∃ piece ∈ pieces query.toList, Denotes piece t := by
  have hall := tokensOf_eq_ok_iff.mp h
  obtain ⟨i, rfl⟩ := List.mem_iff_get.mp ht
  obtain ⟨hlength, hdenotes⟩ := List.forall₂_iff_get.mp hall
  have hi : i.val < (pieces query.toList).length := hlength.symm ▸ i.isLt
  exact ⟨_, List.get_mem _ ⟨i.val, hi⟩, hdenotes i.val hi i.isLt⟩

/-- A token is spelled as its piece is written. -/
theorem Denotes.spelledAs {piece : Piece} {t : Token} (h : Denotes piece t) :
    SpelledAs piece.written t := by
  cases h with
  | operator hspelled => exact .operator rfl hspelled rfl
  | @plain dash body hunspelled =>
      have htext : (⟨body.kind, body.value, none, dash⟩ : Token).text.toList =
          Piece.written ⟨dash, none, body⟩ := by
        simp [Token.toList_text]
      exact htext ▸ .same (by simp) rfl
  | @limited dash written body field hspelled =>
      have hwritten : Piece.written ⟨dash, some written, body⟩ =
          dashText dash ++ (written ++ ':' :: body.written) := by
        simp [Piece.written, prefixText]
      rw [hwritten]
      exact .field (t := ⟨body.kind, body.value, some field, dash⟩) (by simp) rfl hspelled
        (by simp [Token.toList_text, Piece.written, prefixText])

/-- The operators among the tokens stand for the operators among the pieces. -/
theorem Denotes.isOperator_iff {piece : Piece} {t : Token} (h : Denotes piece t) :
    t.isOperator = true ↔ IsOperatorPiece piece := by
  cases h with
  | @operator dash cs op hspelled =>
      exact iff_of_true rfl ⟨rfl, cs, op, rfl, hspelled⟩
  | plain hunspelled =>
      refine iff_of_false (by simp) ?_
      rintro ⟨-, written, op, hbody, hspelled⟩
      exact hunspelled written op hbody hspelled
  | limited => exact iff_of_false (by simp) (by simp [IsOperatorPiece])

/-- Fewer field names read the same pieces, as long as they include the ones that were read. -/
theorem Cut.restrict {names names' : List Char → Prop} {text : List Char} {ps : List Piece}
    (h : Cut names text ps) (hfewer : ∀ name, names' name → names name)
    (hread : ∀ piece ∈ ps, ∀ written, piece.field = some written → names' written) :
    Cut names' text ps := by
  induction h with
  | gap hgap => exact .gap hgap
  | @piece gap rest piece ps hgap hreads more ih =>
      obtain ⟨hdash, hfield, hbody⟩ := hreads
      refine .piece hgap (.piece hdash ?_ hbody)
        (ih fun p hp => hread p (List.mem_cons_of_mem _ hp))
      cases hfield with
      | field hname hvalue => exact .field (hread _ List.mem_cons_self _ rfl) hvalue
      | literal hbreak =>
          exact .literal fun name after hname => hbreak name after (hfewer name hname)

/-- The characters of a text that are no blanks are those of its pieces. -/
theorem Cut.filter_eq {names : List Char → Prop} {text : List Char} {ps : List Piece}
    (h : Cut names text ps) :
    text.filter (!Text.isBlank ·) = (ps.flatMap Piece.written).filter (!Text.isBlank ·) := by
  induction h with
  | gap hgap => simpa using hgap
  | @piece gap rest piece ps hgap hreads more ih =>
      have hnothing : gap.filter (!Text.isBlank ·) = [] := by simpa using hgap
      simp [List.filter_append, hnothing, ih]

/-- A text without pieces is blank. -/
theorem Cut.eq_nil_iff {names : List Char → Prop} {text : List Char} {ps : List Piece}
    (hnames : ∀ name, names name → IsFieldVariant name) (h : Cut names text ps) :
    ps = [] ↔ ∀ c ∈ text, Text.isBlank c = true := by
  constructor
  · rintro rfl
    cases h with
    | gap hgap => exact hgap
  · intro hblank
    exact h.unique hnames (.gap hblank)

/-- The pieces and tokens of a text by the grammar. -/
structure IsReading (text : List Char) (ps : List Piece) (tokens : List Token) : Prop where
  /-- The text is blank gaps and pieces in turn, each piece as long as the grammar lets it be. -/
  cut : Cut IsFieldName text ps
  /-- It can be cut in no other way. -/
  unique : ∀ ps', Cut IsFieldName text ps' → ps' = ps
  /-- Each token is what its piece stands for. -/
  denotes : List.Forall₂ Denotes ps tokens
  /-- Each token is spelled as its piece is written. -/
  spelled : List.Forall₂ (fun piece t => SpelledAs piece.written t) ps tokens
  /-- The operators are the bare words that spell one. -/
  operators : List.Forall₂ (fun piece t => t.isOperator = true ↔ IsOperatorPiece piece) ps tokens
  /-- Only a blank text has no tokens. -/
  eq_nil_iff : tokens = [] ↔ ∀ c ∈ text, Text.isBlank c = true
  /-- What is not blank is part of a piece. -/
  covered : text.filter (!Text.isBlank ·) = (ps.flatMap Piece.written).filter (!Text.isBlank ·)

/-- **Reading follows the grammar.**  The tokens of a query that is read are those of its pieces. -/
theorem parse_follows_grammar {query : String} {tokens : List Token}
    (h : parse query = .ok tokens) : ∃ ps, IsReading query.toList ps tokens := by
  have hnames : ∀ name, IsFieldName name → IsFieldVariant name := fun _ h => h.isFieldVariant
  have hdenotes := tokensOf_eq_ok_iff.mp h
  have hread : ∀ piece ∈ pieces query.toList, ∀ written, piece.field = some written →
      IsFieldName written := by
    intro piece hpiece
    exact exists_denotes_iff.mp (exists_tokensOf_iff.mp ⟨tokens, h⟩ piece hpiece)
  have hcut := (cut_pieces query.toList).restrict hnames hread
  refine ⟨pieces query.toList, ?_⟩
  exact
    { cut := hcut
      unique := fun ps' hcut' => hcut'.unique hnames hcut
      denotes := hdenotes
      spelled := hdenotes.imp fun _ _ ht => ht.spelledAs
      operators := hdenotes.imp fun _ _ ht => ht.isOperator_iff
      eq_nil_iff := by
        rw [← hcut.eq_nil_iff hnames, ← List.length_eq_zero_iff, ← hdenotes.length_eq,
          List.length_eq_zero_iff]
      covered := hcut.filter_eq }

/-- A phrase next to a word, a dash that stands alone, and a quote that nothing closes. -/
theorem parse_follows_grammar_mixed :
    parse "-TAG:\"a b\"x - or \"d" = .ok [⟨.phrase, "a b", some .tag, true⟩,
      ⟨.term, "x", none, false⟩, ⟨.term, "-", none, false⟩, ⟨.operator, "OR", none, false⟩,
      ⟨.term, "\"d", none, false⟩] ∧
    ∃ ps, IsReading "-TAG:\"a b\"x - or \"d".toList ps [⟨.phrase, "a b", some .tag, true⟩,
      ⟨.term, "x", none, false⟩, ⟨.term, "-", none, false⟩, ⟨.operator, "OR", none, false⟩,
      ⟨.term, "\"d", none, false⟩] := by
  have hparse : parse "-TAG:\"a b\"x - or \"d" = .ok [⟨.phrase, "a b", some .tag, true⟩,
      ⟨.term, "x", none, false⟩, ⟨.term, "-", none, false⟩, ⟨.operator, "OR", none, false⟩,
      ⟨.term, "\"d", none, false⟩] := by
    rw [parse, pieces_eq_piecesWithin (n := 19) (by simp)]
    rfl
  exact ⟨hparse, parse_follows_grammar hparse⟩

end Catalogue.Query
