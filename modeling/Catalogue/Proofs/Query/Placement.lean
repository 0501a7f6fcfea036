import Catalogue.Proofs.Query.Reading
import Catalogue.Proofs.Text.Containment

/-!
# Where values stand in a query

A value that is not limited to a field stands between barriers in the query: blanks, quotes, a dash,
or an end of the query.  So its lower case occurs in the lower case of the query, whatever letters
stand elsewhere (`lower_value_within`).  Behind the colon of a field name this can fail, since a
colon is case-ignorable.
-/

namespace Catalogue

namespace Query

open Text

/-- A body stands between barriers, if what comes before it ends with one. -/
theorem ReadsBody.placed {text rest : List Char} {body : Body} (h : ReadsBody text body rest) :
    ∃ before after, text = before ++ (body.value.toList ++ after) ∧ StartsBarred after ∧
      ∀ earlier, StartsBarred earlier → StartsBarred (before.reverse ++ earlier) := by
  have hquote : IsBarrier '"' := by decide +kernel
  cases h with
  | @phrase inner rest nonempty quoteless =>
      exact ⟨['"'], '"' :: rest, by simp [Body.value], hquote, fun _ _ => hquote⟩
  | @word cs rest nonempty blankless break_after =>
      refine ⟨[], rest, by simp [Body.value], ?_, fun _ h => h⟩
      cases rest with
      | nil => trivial
      | cons c rest => exact isBarrier_of_isBlank break_after

/-- So does the body of a piece without a field. -/
theorem ReadsPiece.placed {names : List Char → Prop} {text rest : List Char} {piece : Piece}
    (h : ReadsPiece names text piece rest) (hfield : piece.field = none) :
    ∃ before after, text = before ++ (piece.body.value.toList ++ after) ∧ StartsBarred after ∧
      ∀ earlier, StartsBarred earlier → StartsBarred (before.reverse ++ earlier) := by
  cases h with
  | piece first second third =>
      obtain ⟨before, after, hsplit, hafter, hbefore⟩ := third.placed
      cases second with
      | field => simp at hfield
      | literal =>
          cases first with
          | literal => exact ⟨before, after, hsplit, hafter, hbefore⟩
          | dash =>
              refine ⟨'-' :: before, after, by rw [hsplit]; rfl, hafter, fun earlier _ => ?_⟩
              have hdash : IsBarrier '-' := by decide +kernel
              rw [List.reverse_cons, List.append_assoc]
              exact hbefore _ hdash

/-- Behind a piece is a break, or the piece ends with a quote. -/
theorem ReadsPiece.ends {names : List Char → Prop} {text rest : List Char} {piece : Piece}
    (h : ReadsPiece names text piece rest) (earlier : List Char) :
    AtBreak rest ∨ StartsBarred (piece.written.reverse ++ earlier) := by
  cases h with
  | piece first second third =>
      cases third with
      | word _ _ break_after => exact Or.inl break_after
      | phrase =>
          have hquote : IsBarrier '"' := by decide +kernel
          refine Or.inr ?_
          simp only [Piece.written, Body.written, List.reverse_append, List.reverse_cons,
            List.append_assoc, List.cons_append]
          exact hquote

/-- **Values without a field stand between barriers**, if the text before the pieces ends with one
or a blank comes first. -/
theorem Cut.placed {text : List Char} {ps : List Piece} (h : Cut IsFieldVariant text ps)
    {piece : Piece} (hpiece : piece ∈ ps) (hfield : piece.field = none)
    (earlier : List Char) (hearlier : AtBreak text ∨ StartsBarred earlier) :
    ∃ before after, text = before ++ (piece.body.value.toList ++ after) ∧
      StartsBarred (before.reverse ++ earlier) ∧ StartsBarred after := by
  induction h generalizing earlier with
  | gap => simp at hpiece
  | @piece gap rest head ps hgap hreads more ih =>
      -- What comes before the piece ends with a barrier: a blank of the gap, or what came earlier.
      have hstart : StartsBarred (gap.reverse ++ earlier) := by
        rcases List.eq_nil_or_concat' gap with rfl | ⟨blanks, c, rfl⟩
        · exact hearlier.resolve_left (hreads.not_atBreak fun _ hname => hname)
        · rw [List.reverse_append, List.reverse_singleton]
          exact isBarrier_of_isBlank (hgap c (by simp))
      rcases List.mem_cons.mp hpiece with rfl | hlater
      · obtain ⟨before, after, hsplit, hafter, hbefore⟩ := hreads.placed hfield
        refine ⟨gap ++ before, after, by rw [hsplit, List.append_assoc], ?_, hafter⟩
        rw [List.reverse_append, List.append_assoc]
        exact hbefore _ hstart
      · have hend : AtBreak rest ∨
            StartsBarred (head.written.reverse ++ (gap.reverse ++ earlier)) := hreads.ends _
        obtain ⟨before, after, hsplit, hbefore, hafter⟩ := ih hlater _ hend
        refine ⟨gap ++ (head.written ++ before), after, by simp [hsplit], ?_, hafter⟩
        simpa [List.append_assoc] using hbefore

/-- Every piece looks for something. -/
theorem Cut.value_ne_nil {names : List Char → Prop} {text : List Char} {ps : List Piece}
    (h : Cut names text ps) {piece : Piece} (hpiece : piece ∈ ps) :
    piece.body.value.toList ≠ [] := by
  induction h with
  | gap => simp at hpiece
  | piece _ hreads _ ih =>
      rcases List.mem_cons.mp hpiece with rfl | hlater
      · cases hreads with
        | piece first second third =>
            cases third with
            | phrase nonempty => simpa [Body.value] using nonempty
            | word nonempty => simpa [Body.value] using nonempty
      · exact ih hlater

section Values

variable {query : String} {tokens : List Token} {t : Token}

/-- What a token looks for is the body of its piece. -/
theorem Denotes.searched {piece : Piece} (h : Denotes piece t) (hsearched : t.isOperator = false) :
    t.value = piece.body.value ∧ (t.field = none → piece.field = none) := by
  cases h with
  | operator => simp [Token.isOperator] at hsearched
  | plain => exact ⟨rfl, fun _ => rfl⟩
  | limited => exact ⟨rfl, by simp⟩

/-- No token that was read searches for the empty text. -/
theorem value_ne_nil_of_parse (h : parse query = .ok tokens) (ht : t ∈ tokens)
    (hsearched : t.isOperator = false) : t.value.toList ≠ [] := by
  obtain ⟨piece, hpiece, hdenotes⟩ := exists_piece_of_parse h ht
  rw [(hdenotes.searched hsearched).1]
  exact (cut_pieces query.toList).value_ne_nil hpiece

/-- **The lower case of a value without a field** occurs in the lower case of the query. -/
theorem lower_value_within (h : parse query = .ok tokens) (ht : t ∈ tokens)
    (hsearched : t.isOperator = false) (hfield : t.field = none) :
    (lower t.value).toList <:+: (lower query).toList := by
  obtain ⟨piece, hpiece, hdenotes⟩ := exists_piece_of_parse h ht
  obtain ⟨hvalue, hunlimited⟩ := hdenotes.searched hsearched
  obtain ⟨before, after, hsplit, hbefore, hafter⟩ :=
    (cut_pieces query.toList).placed hpiece (hunlimited hfield) [] (Or.inr trivial)
  rw [List.append_nil] at hbefore
  have hwithin := lowerChars_between t.value.toList hbefore hafter
  rw [hvalue, List.append_assoc, ← hsplit] at hwithin
  simpa only [lower, String.toList_ofList, hvalue] using hwithin

end Values

end Query

end Catalogue
