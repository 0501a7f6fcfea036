import Catalogue.Proofs.Query.Meaning
import Catalogue.Proofs.Text.Splitting

/-!
# Reading what was written

Writing the tokens of a query changes its text: gaps become single spaces, a space comes between a
phrase and what touched it, field names lose their capital letters, operators get theirs and lose
their dash.  None of this changes what is read.  The one thing that could is a quote that nothing
closed, since a quote written later would close it; but where such a quote was read no other quote
follows, and tokens that were read without quotes are written without quotes.
-/

namespace Catalogue.Query

/-- Tokens as they are written behind another token. -/
def spaced (ts : List Token) : List Char :=
  ts.flatMap fun t => ' ' :: t.piece.written

theorem atBreak_spaced (ts : List Token) : AtBreak (spaced ts) := by
  cases ts with
  | nil => trivial
  | cons t ts => simp [spaced, show Text.isBlank ' ' = true by decide]

/-- A query is written with its first token in front and the others spaced behind it. -/
theorem toList_queryText_cons (t : Token) (ts : List Token) :
    (queryText (t :: ts)).toList = t.piece.written ++ spaced ts := by
  simp [queryText, Text.toList_join, spaced, List.flatMap_map, Token.toList_text]

/-- The text of a query is scanned like its tokens behind another token. -/
theorem pieces_queryText (ts : List Token) : pieces (queryText ts).toList = pieces (spaced ts) := by
  cases ts with
  | nil => rfl
  | cons t ts =>
      have hspaced : spaced (t :: ts) = ' ' :: (t.piece.written ++ spaced ts) := by simp [spaced]
      rw [toList_queryText_cons, hspaced, pieces.eq_def (' ' :: _),
        List.dropWhile_cons_of_pos (by decide), ← pieces.eq_def]

/-- If a word in front of a break starts like a mark without blanks, the mark is part of it. -/
theorem word_split {word rest mark after : List Char} (hmark : ∀ c ∈ mark, Text.isBlank c = false)
    (hrest : AtBreak rest) (h : word ++ rest = mark ++ after) :
    ∃ tail, word = mark ++ tail ∧ after = tail ++ rest := by
  rcases List.append_eq_append_iff.mp h with ⟨more, hword, hafter⟩ | ⟨tail, hword, hafter⟩
  · cases more with
    | nil => exact ⟨[], by simpa using hword.symm, by simpa using hafter.symm⟩
    | cons c more =>
        rw [hafter, List.cons_append, atBreak_cons] at hrest
        simp [hmark c (by simp [hword])] at hrest
  · exact ⟨tail, hword, hafter⟩

/-- A quote opens a phrase if another quote follows, but not at once. -/
theorem opensPhrase_iff {text : List Char} :
    OpensPhrase text ↔ ∃ tail, text = '"' :: tail ∧ '"' ∈ tail ∧ tail.head? ≠ some '"' := by
  constructor
  · rintro ⟨inner, rest, rfl, hne, hinner⟩
    refine ⟨_, rfl, by simp, ?_⟩
    obtain ⟨c, cs, rfl⟩ := List.exists_cons_of_ne_nil hne
    simpa using Ne.symm (List.ne_of_not_mem_cons hinner)
  · rintro ⟨tail, rfl, hquote, hhead⟩
    obtain ⟨inner, rest, rfl, hinner⟩ := List.eq_append_cons_of_mem hquote
    refine ⟨inner, rest, rfl, ?_, hinner⟩
    rintro rfl
    simp at hhead

/-- A body reads the same in front of a break, unless a quote comes with the break. -/
theorem ReadsBody.before_break {text rest rest' : List Char} {body : Body}
    (h : ReadsBody text body rest) (hbreak : AtBreak rest')
    (hquote : '"' ∈ rest' → '"' ∈ rest) : ReadsBody (body.written ++ rest') body rest' := by
  cases h with
  | @phrase inner rest hne hinner =>
      have hphrase : ReadsBody ('"' :: (inner ++ '"' :: rest')) (.phrase inner) rest' :=
        .phrase hne hinner
      simpa [Body.written] using hphrase
  | @word cs rest hne hblank hrest hunopened =>
      refine .word hne hblank hbreak fun hopens => hunopened ?_
      obtain ⟨c, cs, rfl⟩ := List.exists_cons_of_ne_nil hne
      obtain ⟨tail, htext, hmem, hhead⟩ := opensPhrase_iff.mp hopens
      change c :: (cs ++ rest') = '"' :: tail at htext
      obtain ⟨rfl, rfl⟩ := List.cons.inj htext
      refine opensPhrase_iff.mpr ⟨cs ++ rest, rfl, ?_, ?_⟩
      · rw [List.mem_append] at hmem ⊢
        exact hmem.imp_right hquote
      · cases cs with
        | cons d cs => simpa using hhead
        | nil =>
            -- The break behind the only quote of the word is no quote.
            intro hnext
            obtain ⟨after, rfl⟩ := List.head?_eq_some_iff.mp hnext
            exact absurd (atBreak_cons.mp hrest) (by decide)

/-- If a mark in front of a body is always followed by a break, this does not depend on the break
that follows the body. -/
theorem ReadsBody.break_after {text rest rest' mark : List Char} {body : Body}
    (h : ReadsBody text body rest) (hrest' : AtBreak rest') (hne : mark ≠ [])
    (hblank : ∀ c ∈ mark, Text.isBlank c = false) (hquote : '"' ∉ mark)
    (hbreak : ∀ after, text = mark ++ after → AtBreak after) {after : List Char}
    (hafter : body.written ++ rest' = mark ++ after) : AtBreak after := by
  cases h with
  | phrase =>
      obtain ⟨c, mark, rfl⟩ := List.exists_cons_of_ne_nil hne
      obtain ⟨rfl, -⟩ := List.cons.inj hafter
      exact absurd List.mem_cons_self hquote
  | @word cs rest _ hword hrest _ =>
      obtain ⟨tail, rfl, rfl⟩ := word_split hblank hrest' hafter
      have hold := hbreak (tail ++ rest) (by simp)
      cases tail with
      | nil => exact hrest'
      | cons c tail => exact hold

/-- A field name holds no quote. -/
theorem IsFieldVariant.quote_notMem {written : List Char} (h : IsFieldVariant written) :
    '"' ∉ written :=
  h.notMem (by decide) (by decide)

/-- A field name and its colon hold no blank. -/
theorem IsFieldVariant.colon_blankless {written : List Char} (h : IsFieldVariant written) :
    ∀ c ∈ written ++ [':'], Text.isBlank c = false := by
  intro c hc
  rcases List.mem_append.mp hc with hc | hc
  · exact h.blankless c hc
  · obtain rfl := List.mem_singleton.mp hc
    decide

/-- Nothing but a body is read in front of a break if nothing else was read in front of it
before. -/
theorem ReadsBody.field_literal {text rest rest' : List Char} {body : Body}
    (h : ReadsBody text body rest) (hrest' : AtBreak rest')
    (hfield : ReadsField IsFieldVariant text none text) :
    ReadsField IsFieldVariant (body.written ++ rest') none (body.written ++ rest') := by
  cases hfield with
  | literal hbreak =>
      refine .literal fun name after hname hafter => ?_
      have hmark : body.written ++ rest' = (name ++ [':']) ++ after := by simpa using hafter
      refine h.break_after hrest' (by simp) hname.colon_blankless ?_ ?_ hmark
      · simpa using hname.quote_notMem
      · intro after htext
        exact hbreak name after hname (by simpa using htext)

/-- No dash is read in front of a break if none was read in front of the body before. -/
theorem ReadsBody.dash_literal {text text' rest rest' : List Char} {body : Body}
    (h : ReadsBody text body rest) (hrest' : AtBreak rest') (hdash : ReadsDash text' false text) :
    ReadsDash (body.written ++ rest') false (body.written ++ rest') := by
  cases hdash with
  | literal hbreak =>
      refine .literal fun after hafter => ?_
      have hmark : body.written ++ rest' = ['-'] ++ after := hafter
      exact h.break_after hrest' (by simp) (by simp; decide) (by simp) hbreak hmark

/-- A dash is read in front of a value, and nothing where none is written and none starts the
value. -/
theorem readsDash_written {dash : Bool} {text : List Char} (hvalue : ¬ AtBreak text)
    (hliteral : dash = false → ReadsDash text false text) :
    ReadsDash (dashText dash ++ text) dash text := by
  cases dash with
  | true => exact .dash hvalue
  | false => exact hliteral rfl

/-- A piece is read where its dash, its field and its body are read in turn. -/
theorem readsPiece_written {names : List Char → Prop} {dash : Bool} {field : Option (List Char)}
    {body : Body} {rest : List Char}
    (hdash : ReadsDash (dashText dash ++ (prefixText field ++ (body.written ++ rest))) dash
      (prefixText field ++ (body.written ++ rest)))
    (hfield : ReadsField names (prefixText field ++ (body.written ++ rest)) field
      (body.written ++ rest))
    (hbody : ReadsBody (body.written ++ rest) body rest) :
    ReadsPiece names (Piece.written ⟨dash, field, body⟩ ++ rest) ⟨dash, field, body⟩ rest := by
  simpa [Piece.written] using ReadsPiece.piece hdash hfield hbody

/-- A word of letters in front of a break is a piece of its own. -/
theorem readsPiece_of_letters {word rest : List Char} (hne : word ≠ [])
    (hletters : ∀ c ∈ word, c.isAlpha = true) (hrest : AtBreak rest) :
    ReadsPiece IsFieldVariant (word ++ rest) ⟨false, none, .word word⟩ rest := by
  obtain ⟨c, cs, rfl⟩ := List.exists_cons_of_ne_nil hne
  have hc := hletters c List.mem_cons_self
  have hblank : ∀ d ∈ c :: cs, Text.isBlank d = false := fun d hd =>
    Text.isBlank_eq_false_of_isAlpha (hletters d hd)
  refine .piece (.literal fun after hafter => ?_) (.literal fun name after hname hafter => ?_)
    (.word hne hblank hrest ?_)
  · obtain ⟨rfl, -⟩ := List.cons.inj hafter
    exact absurd hc (by decide)
  · have hmark : (c :: cs) ++ rest = (name ++ [':']) ++ after := by simpa using hafter
    obtain ⟨tail, hword, -⟩ := word_split hname.colon_blankless hrest hmark
    have hcolon : ':' ∈ c :: cs := by simp [hword]
    exact absurd (hletters ':' hcolon) (by decide)
  · rintro ⟨inner, after, hafter, -, -⟩
    obtain ⟨rfl, -⟩ := List.cons.inj hafter
    exact absurd hc (by decide)

/-- The name of a field spells it. -/
theorem spellsField_name (field : SearchField) : SpellsField field.name.toList field := by
  cases field <;> decide

/-- The name of a field is one as the scanner accepts it. -/
theorem isFieldVariant_name (field : SearchField) : IsFieldVariant field.name.toList :=
  IsFieldName.isFieldVariant ⟨field, spellsField_name field⟩

/-- The name of an operator spells it. -/
theorem spellsOperator_name (op : BooleanOperator) : SpellsOperator op.name.toList op := by
  cases op <;> decide

/-- The name of an operator is read as it is written. -/
theorem readsPiece_operator (op : BooleanOperator) {rest : List Char} (hrest : AtBreak rest) :
    ReadsPiece IsFieldVariant (op.name.toList ++ rest) ⟨false, none, .word op.name.toList⟩
      rest := by
  have hletters : op.name.toList.all Char.isAlpha = true := by cases op <;> rfl
  have hne : op.name.toList ≠ [] := by cases op <;> decide
  exact readsPiece_of_letters hne (List.all_eq_true.mp hletters) hrest

/-- Behind a field name anything is read as it is written. -/
theorem readsPiece_limited {body : Body} {rest : List Char} (field : SearchField) (dash : Bool)
    (hbody : ReadsBody (body.written ++ rest) body rest) :
    ReadsPiece IsFieldVariant (Piece.written ⟨dash, some field.name.toList, body⟩ ++ rest)
      ⟨dash, some field.name.toList, body⟩ rest := by
  have hlimited : ReadsField IsFieldVariant
      (prefixText (some field.name.toList) ++ (body.written ++ rest))
      (some field.name.toList) (body.written ++ rest) := by
    simpa [prefixText] using ReadsField.field (isFieldVariant_name field) hbody.not_atBreak
  have hvalue := hlimited.not_atBreak (fun _ h => h) hbody.not_atBreak
  refine readsPiece_written (readsDash_written hvalue fun _ => ?_) hlimited hbody
  -- The name of a field starts with a letter.
  refine .literal fun after hafter => ?_
  cases field <;> simp [prefixText, SearchField.name] at hafter

/-- The text of a token reads as the token in front of a break, unless a quote comes with it. -/
theorem ReadsPiece.token {text rest rest' : List Char} {piece : Piece} {t : Token}
    (h : ReadsPiece IsFieldVariant text piece rest) (ht : Denotes piece t)
    (hrest' : AtBreak rest') (hquote : '"' ∈ rest' → '"' ∈ rest) :
    ReadsPiece IsFieldVariant (t.piece.written ++ rest') t.piece rest' := by
  cases h with
  | @piece _ _ _ dash written body hdash hfield hbody =>
      have hread := hbody.before_break hrest' hquote
      cases ht with
      | @operator _ _ op _ => exact readsPiece_operator op hrest'
      | plain =>
          obtain rfl := hfield.text_eq
          rw [Body.piece_token]
          refine readsPiece_written (readsDash_written hread.not_atBreak fun hliteral => ?_)
            (hbody.field_literal hrest' hfield) hread
          exact hbody.dash_literal hrest' (hliteral ▸ hdash)
      | @limited _ _ _ field _ =>
          rw [Body.piece_token]
          exact readsPiece_limited field _ hread

/-- The piece of a token stands for the token. -/
theorem Denotes.token {piece : Piece} {t : Token} (h : Denotes piece t) : Denotes t.piece t := by
  cases h with
  | @operator _ _ op _ => exact .operator (spellsOperator_name op)
  | plain hunspelled =>
      rw [Body.piece_token]
      exact .plain hunspelled
  | @limited _ _ _ field _ =>
      rw [Body.piece_token]
      exact .limited (spellsField_name field)

/-- Tokens bring no quotes with them. -/
theorem Denotes.quote_mem {piece : Piece} {t : Token} (h : Denotes piece t)
    (hquote : '"' ∈ t.piece.written) : '"' ∈ piece.written := by
  cases h with
  | @operator _ _ op _ =>
      have hnone : '"' ∉ op.name.toList := by cases op <;> decide
      exact absurd hquote hnone
  | plain => rwa [Body.piece_token] at hquote
  | @limited dash written body field _ =>
      have hnone := (isFieldVariant_name field).quote_notMem
      simp only [Body.piece_token, Option.map_some, Piece.written, prefixText,
        List.mem_append] at hquote ⊢
      grind

/-- The text of tokens that were read is cut into their pieces, and it has no quote if the text that
was read has none. -/
theorem Cut.spaced_tokens {text : List Char} {ps : List Piece} {ts : List Token}
    (h : Cut IsFieldVariant text ps) (hts : List.Forall₂ Denotes ps ts) :
    Cut IsFieldVariant (spaced ts) (ts.map Token.piece) ∧ ('"' ∈ spaced ts → '"' ∈ text) := by
  induction h generalizing ts with
  | gap =>
      obtain rfl := List.forall₂_nil_left_iff.mp hts
      exact ⟨.gap (by simp [spaced]), by simp [spaced]⟩
  | @piece gap rest piece ps hgap hreads more ih =>
      obtain ⟨t, ts, ht, hmore, rfl⟩ := List.forall₂_cons_left_iff.mp hts
      obtain ⟨hcut, hquote⟩ := ih hmore
      have hread := hreads.token ht (atBreak_spaced ts) hquote
      have hspaced : spaced (t :: ts) = [' '] ++ (t.piece.written ++ spaced ts) := by
        simp [spaced]
      refine ⟨hspaced ▸ .piece (by simp; decide) hread hcut, fun hmem => ?_⟩
      rw [hspaced] at hmem
      simp only [List.mem_append, List.mem_singleton] at hmem ⊢
      have hpiece := ht.quote_mem
      grind

/-- The pieces of tokens that were read stand for these tokens. -/
theorem denotes_map_piece {ps : List Piece} {ts : List Token} (h : List.Forall₂ Denotes ps ts) :
    List.Forall₂ Denotes (ts.map Token.piece) ts := by
  induction h with
  | nil => exact .nil
  | cons ht _ ih => exact .cons ht.token ih

/-- **Written queries read the same.**  The text of the tokens of a query reads as these tokens. -/
theorem parse_queryText {query : String} {tokens : List Token} (h : parse query = .ok tokens) :
    parse (queryText tokens) = .ok tokens := by
  have hdenotes := tokensOf_eq_ok_iff.mp h
  have hcut := ((cut_pieces query.toList).spaced_tokens hdenotes).1
  rw [parse, pieces_queryText, pieces_eq_iff.mpr hcut]
  exact tokensOf_eq_ok_iff.mpr (denotes_map_piece hdenotes)

/-- An excluded operator, a phrase that touches a word, a field name that stands alone, and a quote
that nothing closes. -/
theorem parse_queryText_unclosed :
    parse "-or  \"a b\"c TITLE: Tag:\"d" = .ok [⟨.operator, "OR", none, false⟩,
      ⟨.phrase, "a b", none, false⟩, ⟨.term, "c", none, false⟩, ⟨.term, "TITLE:", none, false⟩,
      ⟨.term, "\"d", some .tag, false⟩] ∧
    parse (queryText [⟨.operator, "OR", none, false⟩, ⟨.phrase, "a b", none, false⟩,
      ⟨.term, "c", none, false⟩, ⟨.term, "TITLE:", none, false⟩,
      ⟨.term, "\"d", some .tag, false⟩]) = .ok [⟨.operator, "OR", none, false⟩,
      ⟨.phrase, "a b", none, false⟩, ⟨.term, "c", none, false⟩, ⟨.term, "TITLE:", none, false⟩,
      ⟨.term, "\"d", some .tag, false⟩] := by
  have hparse : parse "-or  \"a b\"c TITLE: Tag:\"d" = .ok [⟨.operator, "OR", none, false⟩,
      ⟨.phrase, "a b", none, false⟩, ⟨.term, "c", none, false⟩, ⟨.term, "TITLE:", none, false⟩,
      ⟨.term, "\"d", some .tag, false⟩] := by
    rw [parse, pieces_eq_piecesWithin (n := 25) (by simp)]
    rfl
  exact ⟨hparse, parse_queryText hparse⟩

end Catalogue.Query
