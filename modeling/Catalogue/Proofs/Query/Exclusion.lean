import Catalogue.Proofs.Query.Composition

/-!
# Excluding what a query finds

A dash in front of a query excludes its first token and leaves the others as they are.  A value
follows the dash, so it is a dash and no part of a word, and behind it the text is read as without
it (`ReadsPiece.exclude`, `pieces_exclude`).  So the tokens are the same but for the first one
(`parse_exclude`).  If there is no other token, the two queries part every list of records between
them (`exclude_parts`).
-/

namespace Catalogue

/-- A list is parted between two others: every element goes to one of them, in order. -/
inductive Parted {α : Type} : List α → List α → List α → Prop
  | nil : Parted [] [] []
  | left {a : α} {whole found others : List α} (rest : Parted whole found others) :
      Parted (a :: whole) (a :: found) others
  | right {a : α} {whole found others : List α} (rest : Parted whole found others) :
      Parted (a :: whole) found (a :: others)

/-- A property parts a list between the elements that have it and the others. -/
theorem parted_filter {α : Type} (p : α → Bool) (l : List α) :
    Parted l (l.filter p) (l.filter (!p ·)) := by
  induction l with
  | nil => exact .nil
  | cons a l ih =>
      by_cases ha : p a = true
      · rw [List.filter_cons_of_pos ha, List.filter_cons_of_neg (by simp [ha])]
        exact .left ih
      · rw [List.filter_cons_of_neg ha, List.filter_cons_of_pos (by simp [ha])]
        exact .right ih

namespace Query

/-- **One piece.**  Behind a dash a piece is read as without it. -/
theorem ReadsPiece.exclude {names : List Char → Prop} {text rest : List Char} {piece : Piece}
    (h : ReadsPiece names text piece rest) (hnames : ∀ name, names name → IsFieldVariant name)
    (hplain : piece.dash = false) :
    ReadsPiece names ('-' :: text) { piece with dash := true } rest := by
  obtain ⟨hdash, hfield, hbody⟩ := h
  cases hdash with
  | dash => simp at hplain
  | literal => exact .piece (.dash (hfield.not_atBreak hnames hbody.not_atBreak)) hfield hbody

/-- A dash in front of a text goes to its first piece. -/
theorem pieces_exclude {text : List Char} {piece : Piece} {ps : List Piece}
    (hstart : ¬ AtBreak text) (h : pieces text = piece :: ps) (hplain : piece.dash = false) :
    pieces ('-' :: text) = { piece with dash := true } :: ps := by
  have hcut := pieces_eq_iff.mp h
  cases hcut with
  | @piece gap rest _ _ hgap hreads more =>
      obtain rfl : gap = [] := by
        by_contra hne
        obtain ⟨c, gap, rfl⟩ := List.exists_cons_of_ne_nil hne
        exact hstart (hgap c List.mem_cons_self)
      have hexcluded := hreads.exclude (fun _ hname => hname) hplain
      have hwritten := hexcluded.text_eq
      have hdashed := Cut.piece hgap (hwritten ▸ hexcluded) more
      rw [List.nil_append] at hdashed ⊢
      exact pieces_eq_iff.mpr (hwritten ▸ hdashed)

/-- A piece with a dash stands for the excluded token. -/
theorem Denotes.exclude {piece : Piece} {t : Token} (h : Denotes piece t)
    (hsearched : t.isOperator = false) (hplain : t.negated = false) :
    piece.dash = false ∧ Denotes { piece with dash := true } { t with negated := true } := by
  cases h with
  | operator => simp [Token.isOperator] at hsearched
  | plain hunspelled => exact ⟨hplain, .plain hunspelled⟩
  | limited hspelled => exact ⟨hplain, .limited hspelled⟩

/-- **A dash in front of a query** excludes its first token and changes no other one. -/
theorem parse_exclude {query : String} {t : Token} {ts : List Token}
    (hstart : ¬ AtBreak query.toList) (hparse : parse query = .ok (t :: ts))
    (hsearched : t.isOperator = false) (hplain : t.negated = false) :
    parse ("-" ++ query) = .ok ({ t with negated := true } :: ts) := by
  have htokens := tokensOf_eq_ok_iff.mp hparse
  obtain ⟨piece, ps, hdenotes, hrest, hpieces⟩ := List.forall₂_cons_right_iff.mp htokens
  obtain ⟨hdash, hexcluded⟩ := hdenotes.exclude hsearched hplain
  have htext : ("-" ++ query).toList = '-' :: query.toList := String.toList_append
  rw [parse, htext, pieces_exclude hstart hpieces hdash]
  exact tokensOf_eq_ok_iff.mpr (.cons hexcluded hrest)

/-- An excluded token matches exactly what the token does not match. -/
theorem isMatch_exclude {t : Token} (hplain : t.negated = false) (r : Record) :
    Token.isMatch { t with negated := true } r = !t.isMatch r := by
  simp [Token.isMatch, Token.occursInRecord, hplain]

/-- A query of one token finds what the token matches. -/
theorem exists_ofText_singleton {query : String} {t : Token} (hparse : parse query = .ok [t])
    (hsearched : t.isOperator = false) :
    ∃ q, CompiledQuery.ofText query = .ok q ∧ ∀ rs, q.filter rs = rs.filter (t.isMatch ·) := by
  have hone : IsConjunction [t] :=
    ⟨by simpa using Token.isOr_eq_false_of_searched hsearched, by simpa using hsearched⟩
  refine ⟨_, ofText_of_parse hparse, fun rs => List.filter_congr fun r _ => ?_⟩
  rw [CompiledQuery.isMatch, hone.someGroupMatches_eq]
  simp [CompiledQuery.isEmpty, searched, hsearched]

/-- **A query of one token and the same query behind a dash.**  Let a query start with no blank, and
be read as one token that is neither an operator nor excluded.  With a dash in front it is read as
the same token, excluded, and the two queries part every list of records: each record is found by
one of them, in order, and no record by both. -/
theorem exclude_parts {query : String} {t : Token} (hstart : ¬ AtBreak query.toList)
    (hparse : parse query = .ok [t]) (hsearched : t.isOperator = false)
    (hplain : t.negated = false) :
    parse ("-" ++ query) = .ok [{ t with negated := true }] ∧
      ∃ q q', CompiledQuery.ofText query = .ok q ∧ CompiledQuery.ofText ("-" ++ query) = .ok q' ∧
        ∀ rs, Parted rs (q.filter rs) (q'.filter rs) ∧
          (q.filter rs).Disjoint (q'.filter rs) := by
  have hexcluded := parse_exclude hstart hparse hsearched hplain
  obtain ⟨q, hq, hfound⟩ := exists_ofText_singleton hparse hsearched
  obtain ⟨q', hq', hothers⟩ := exists_ofText_singleton hexcluded hsearched
  simp only [isMatch_exclude hplain] at hothers
  refine ⟨hexcluded, q, q', hq, hq', fun rs => ?_⟩
  rw [hfound, hothers]
  refine ⟨parted_filter _ rs, fun r hr hr' => ?_⟩
  have hmatch := (List.mem_filter.mp hr).2
  have hmisses := (List.mem_filter.mp hr').2
  simp [hmatch] at hmisses

/-- A dash that stands alone is a word, and another one in front of it excludes this word. -/
theorem exclude_parts_dash :
    ¬ AtBreak "-\t".toList ∧ parse "-\t" = .ok [⟨.term, "-", none, false⟩] ∧
      parse ("-" ++ "-\t") = .ok [⟨.term, "-", none, true⟩] ∧
      ∃ q q', CompiledQuery.ofText "-\t" = .ok q ∧ CompiledQuery.ofText ("-" ++ "-\t") = .ok q' ∧
        ∀ rs, Parted rs (q.filter rs) (q'.filter rs) ∧
          (q.filter rs).Disjoint (q'.filter rs) := by
  have hstart : ¬ AtBreak "-\t".toList := by
    have hdash : "-\t".toList = ['-', '\t'] := rfl
    rw [hdash, atBreak_cons]
    decide
  have hparse : parse "-\t" = .ok [⟨.term, "-", none, false⟩] := by
    rw [parse, pieces_eq_piecesWithin (n := 2) (by simp)]
    rfl
  exact ⟨hstart, hparse, exclude_parts hstart hparse rfl rfl⟩

end Query

end Catalogue
