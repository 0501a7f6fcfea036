import Catalogue.Proofs.Query.Rendering

/-!
# Tokens that are read as they are written

A token that was made by hand and not read may be written as a text that reads as something else:
its value may hold a blank or a quote, it may look like an operator, begin with a field name or a
dash, or be empty.  A token with none of these defects is canonical.  Canonical tokens are read from
their text one by one, since a space separates them (`IsCanonical.reads`), and tokens that are read
are canonical unless a quote that nothing closed is part of a word (`ReadsPiece.isCanonical`).  So
the list of canonical tokens are exactly those that are read as they are written, quotes in words
aside (`parse_queryText_iff`).
-/

namespace Catalogue

namespace Query

/-- The value of a word without a field is read as such: it spells no operator, it does not begin
with a field name and a colon in front of something, and it does not begin with a dash in front of
something unless another dash is written in front of it. -/
structure IsPlain (value : List Char) (negated : Bool) : Prop where
  unspelled : ∀ op, ¬ SpellsOperator value op
  unlimited : ∀ name rest, IsFieldVariant name → value = name ++ ':' :: rest → rest = []
  undashed : negated = false → ∀ rest, value = '-' :: rest → rest = []

/-- A token is read as it is written, whatever stands around it. -/
def IsCanonical (t : Token) : Prop :=
  match t.kind with
  | .operator => (∃ op : BooleanOperator, t.value = op.name) ∧ t.field = none ∧ t.negated = false
  | .phrase => t.value ≠ "" ∧ '"' ∉ t.value.toList
  | .term =>
      t.value ≠ "" ∧ (∀ c ∈ t.value.toList, Text.isBlank c = false) ∧ '"' ∉ t.value.toList ∧
        (t.field = none → IsPlain t.value.toList t.negated)

variable {t : Token} {ts : List Token} {rest : List Char}

/-- A word without quotes opens no phrase. -/
theorem readsBody_word {cs : List Char} (hne : cs ≠ []) (hblank : ∀ c ∈ cs, Text.isBlank c = false)
    (hquote : '"' ∉ cs) (hrest : AtBreak rest) : ReadsBody (cs ++ rest) (.word cs) rest := by
  refine .word hne hblank hrest ?_
  rintro ⟨inner, after, hafter, -, -⟩
  obtain ⟨c, cs, rfl⟩ := List.exists_cons_of_ne_nil hne
  obtain ⟨rfl, -⟩ := List.cons.inj hafter
  exact hquote List.mem_cons_self

/-- A phrase in quotes is read as it is written. -/
theorem readsBody_phrase {cs : List Char} (hne : cs ≠ []) (hquote : '"' ∉ cs) :
    ReadsBody (Body.written (.phrase cs) ++ rest) (.phrase cs) rest := by
  have hphrase : ReadsBody ('"' :: (cs ++ '"' :: rest)) (.phrase cs) rest := .phrase hne hquote
  simpa [Body.written] using hphrase

/-- A phrase begins with a quote, so neither a dash nor a field name is read in front of it. -/
theorem readsPiece_phrase {cs : List Char} (dash : Bool) (hne : cs ≠ []) (hquote : '"' ∉ cs) :
    ReadsPiece IsFieldVariant (Piece.written ⟨dash, none, .phrase cs⟩ ++ rest)
      ⟨dash, none, .phrase cs⟩ rest := by
  have hbody : ReadsBody (Body.written (.phrase cs) ++ rest) (.phrase cs) rest :=
    readsBody_phrase hne hquote
  refine readsPiece_written (readsDash_written hbody.not_atBreak fun _ => ?_) ?_ hbody
  · refine .literal fun after hafter => ?_
    simp [prefixText, Body.written] at hafter
  · refine .literal fun name after hname hafter => ?_
    cases name with
    | nil => simp [prefixText, Body.written] at hafter
    | cons c name =>
        obtain ⟨rfl, -⟩ := List.cons.inj hafter
        exact absurd List.mem_cons_self hname.quote_notMem

/-- A plain word is read as it is written. -/
theorem readsPiece_word {cs : List Char} {dash : Bool} (hplain : IsPlain cs dash)
    (hbody : ReadsBody (cs ++ rest) (.word cs) rest) (hrest : AtBreak rest) :
    ReadsPiece IsFieldVariant (Piece.written ⟨dash, none, .word cs⟩ ++ rest)
      ⟨dash, none, .word cs⟩ rest := by
  refine readsPiece_written (readsDash_written hbody.not_atBreak fun hdash => ?_) ?_ hbody
  · refine .literal fun after hafter => ?_
    have hmark : cs ++ rest = ['-'] ++ after := hafter
    obtain ⟨tail, hword, rfl⟩ := word_split (by simp; decide) hrest hmark
    obtain rfl := hplain.undashed hdash tail hword
    exact hrest
  · refine .literal fun name after hname hafter => ?_
    have hmark : cs ++ rest = (name ++ [':']) ++ after := by
      simpa [prefixText, Body.written] using hafter
    obtain ⟨tail, hword, rfl⟩ := word_split hname.colon_blankless hrest hmark
    obtain rfl := hplain.unlimited name tail hname (by simpa using hword)
    exact hrest

/-- **A canonical token is read from its text** in front of a break. -/
theorem IsCanonical.reads (h : IsCanonical t) (hrest : AtBreak rest) :
    ReadsPiece IsFieldVariant (t.piece.written ++ rest) t.piece rest := by
  obtain ⟨kind, value, field, negated⟩ := t
  cases kind with
  | operator =>
      obtain ⟨⟨op, rfl⟩, -, -⟩ := h
      exact readsPiece_operator op hrest
  | phrase =>
      obtain ⟨hvalue, hquote⟩ := h
      have hne : value.toList ≠ [] := by simpa using hvalue
      cases field with
      | none => exact readsPiece_phrase negated hne hquote
      | some field => exact readsPiece_limited field negated (readsBody_phrase hne hquote)
  | term =>
      obtain ⟨hvalue, hblank, hquote, hplain⟩ := h
      have hne : value.toList ≠ [] := by simpa using hvalue
      have hbody := readsBody_word hne hblank hquote hrest
      cases field with
      | none => exact readsPiece_word (hplain rfl) hbody hrest
      | some field => exact readsPiece_limited field negated hbody

/-- The piece of a token that is looked for stands for the token, if its value is no operator. -/
theorem denotes_token (body : Body) {field : Option SearchField} {negated : Bool}
    (h : field = none → ∀ cs op, body = .word cs → ¬ SpellsOperator cs op) :
    Denotes (⟨body.kind, body.value, field, negated⟩ : Token).piece
      ⟨body.kind, body.value, field, negated⟩ := by
  rw [Body.piece_token]
  cases field with
  | none => exact .plain (h rfl)
  | some field => exact .limited (spellsField_name field)

/-- The piece of a canonical token stands for the token. -/
theorem IsCanonical.denotes (h : IsCanonical t) : Denotes t.piece t := by
  obtain ⟨kind, value, field, negated⟩ := t
  obtain ⟨cs, rfl⟩ : ∃ cs, value = String.ofList cs := ⟨value.toList, by simp⟩
  cases kind with
  | operator =>
      obtain ⟨⟨op, hop⟩, rfl, rfl⟩ := h
      change String.ofList cs = op.name at hop
      rw [hop]
      exact .operator (spellsOperator_name op)
  | phrase => exact denotes_token (.phrase cs) (by simp)
  | term =>
      obtain ⟨-, -, -, hplain⟩ := h
      refine denotes_token (.word cs) fun hfield written op hword => ?_
      obtain rfl := Body.word.inj hword
      simpa using (hplain hfield).unspelled op

/-- What is read as a body makes a canonical token, if its value has no quote and is plain where no
field is read. -/
theorem ReadsBody.isCanonical {text : List Char} {body : Body} {field : Option SearchField}
    {negated : Bool} (h : ReadsBody text body rest)
    (hquote : body.kind = .term → '"' ∉ body.value.toList)
    (hplain : field = none → ∀ cs, body = .word cs → IsPlain cs negated) :
    IsCanonical ⟨body.kind, body.value, field, negated⟩ := by
  cases h with
  | phrase hne hquoteless => exact ⟨by simpa [Body.value] using hne, by simpa [Body.value]⟩
  | @word cs _ hne hblank _ _ =>
      refine ⟨by simpa [Body.value] using hne, by simpa [Body.value] using hblank, hquote rfl,
        fun hfield => ?_⟩
      simpa [Body.value] using hplain hfield cs rfl

/-- A word that is read without a field is plain: what goes on behind a mark goes on without a
break. -/
theorem isPlain_of_reads {cs text afterDash : List Char} {dash : Bool}
    (hunspelled : ∀ op, ¬ SpellsOperator cs op) (hdash : ReadsDash text dash afterDash)
    (hfield : ReadsField IsFieldVariant afterDash none (cs ++ rest))
    (hblank : ∀ c ∈ cs, Text.isBlank c = false) : IsPlain cs dash := by
  have hnothing : ∀ mark more, cs = mark ++ more → AtBreak (more ++ rest) → more = [] := by
    rintro mark more rfl hbreak
    cases more with
    | nil => rfl
    | cons c more =>
        have hc := hblank c (by simp)
        exact absurd hbreak (by simp [hc])
  cases hfield with
  | literal hlimit =>
      refine ⟨hunspelled, fun name more hname hcs => ?_, fun hnegated more hcs => ?_⟩
      · exact hnothing (name ++ [':']) more (by simp [hcs])
          (hlimit name (more ++ rest) hname (by simp [hcs]))
      · subst hnegated
        cases hdash with
        | literal hbreak =>
            exact hnothing ['-'] more hcs (hbreak (more ++ rest) (by simp [hcs]))

/-- **A token that is read is canonical**, unless it is a word with a quote. -/
theorem ReadsPiece.isCanonical {text : List Char} {piece : Piece}
    (h : ReadsPiece IsFieldVariant text piece rest) (ht : Denotes piece t)
    (hquote : t.kind = .term → '"' ∉ t.value.toList) : IsCanonical t := by
  cases h with
  | piece hdash hfield hbody =>
      cases ht with
      | @operator _ _ op _ => exact ⟨⟨op, rfl⟩, rfl, rfl⟩
      | limited => exact hbody.isCanonical hquote (by simp)
      | plain hunspelled =>
          refine hbody.isCanonical hquote fun _ cs hcs => ?_
          subst hcs
          cases hbody with
          | word _ hblank =>
              exact isPlain_of_reads (fun op => hunspelled cs op rfl) hdash hfield hblank

/-- Canonical tokens are cut from their text one by one. -/
theorem cut_spaced (h : ∀ t ∈ ts, IsCanonical t) :
    Cut IsFieldVariant (spaced ts) (ts.map Token.piece) := by
  induction ts with
  | nil => exact .gap (by simp [spaced])
  | cons t ts ih =>
      have hread := (h t List.mem_cons_self).reads (atBreak_spaced ts)
      have hspaced : spaced (t :: ts) = [' '] ++ (t.piece.written ++ spaced ts) := by
        simp [spaced]
      rw [hspaced]
      exact .piece (by simp; decide) hread (ih fun s hs => h s (List.mem_cons_of_mem t hs))

/-- Tokens that are read are canonical, words with quotes aside. -/
theorem Cut.isCanonical {text : List Char} {ps : List Piece} (h : Cut IsFieldVariant text ps)
    (hts : List.Forall₂ Denotes ps ts)
    (hquote : ∀ t ∈ ts, t.kind = .term → '"' ∉ t.value.toList) : ∀ t ∈ ts, IsCanonical t := by
  induction h generalizing ts with
  | gap =>
      obtain rfl := List.forall₂_nil_left_iff.mp hts
      simp
  | piece hgap hreads more ih =>
      obtain ⟨t, ts, ht, hmore, rfl⟩ := List.forall₂_cons_left_iff.mp hts
      intro s hs
      rcases List.mem_cons.mp hs with rfl | hs
      · exact hreads.isCanonical ht (hquote s List.mem_cons_self)
      · exact ih hmore (fun u hu => hquote u (List.mem_cons_of_mem _ hu)) s hs

/-- **Canonical tokens are those that are read as they are written**, as far as no word has a
quote: the text of a list of tokens reads as these tokens exactly when each of them is canonical. -/
theorem parse_queryText_iff (ts : List Token) :
    (∀ t ∈ ts, IsCanonical t) ↔
      parse (queryText ts) = .ok ts ∧ ∀ t ∈ ts, t.kind = .term → '"' ∉ t.value.toList := by
  constructor
  · intro h
    refine ⟨?_, fun t ht hterm => ?_⟩
    · rw [parse, pieces_queryText, pieces_eq_iff.mpr (cut_spaced h), tokensOf_eq_ok_iff,
        List.forall₂_map_left_iff, List.forall₂_same]
      exact fun t ht => (h t ht).denotes
    · have hcanonical := h t ht
      rw [IsCanonical, hterm] at hcanonical
      exact hcanonical.2.2.1
  · rintro ⟨hparse, hquote⟩
    exact (cut_pieces _).isCanonical (tokensOf_eq_ok_iff.mp hparse) hquote

/-- Values that begin with a dash or a field name behind another one. -/
example :
    parse (queryText [⟨.term, "-", none, false⟩, ⟨.term, "-x", none, true⟩,
      ⟨.term, "title:x", some .tag, true⟩, ⟨.phrase, " or - ", none, false⟩]) =
    .ok [⟨.term, "-", none, false⟩, ⟨.term, "-x", none, true⟩,
      ⟨.term, "title:x", some .tag, true⟩, ⟨.phrase, " or - ", none, false⟩] := by
  rw [parse, pieces_eq_piecesWithin (n := 27) (by decide)]
  rfl

end Query

end Catalogue
