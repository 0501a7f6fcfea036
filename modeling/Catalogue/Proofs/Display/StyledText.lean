import Mathlib
import Catalogue.Display.StyledText
import Catalogue.Proofs.Text.Splitting

/-!
# Where the spans of a text lie

A styled text is built by appending pieces, and every span is placed by the length of what was there
before.  Pieces with a separator between them lie one behind the other (`appendAll_eq`): each span
covers its piece, the gap between neighbours is the separator, and no span reaches into the next one
(`map_spansFrom`, `isChain_spansFrom`, `pairwise_spansFrom`).
-/

namespace Catalogue

namespace StyledText

variable {t : StyledText} {s style : String}

/-- The characters of a text from one position up to another. -/
def slice (t : StyledText) (start stop : Nat) : String :=
  String.ofList ((t.plain.toList.drop start).take (stop - start))

/-- The pieces that are drawn in styles, with their styles. -/
def drawn (t : StyledText) : List (String × String) :=
  t.spans.map fun span => (t.slice span.start span.stop, span.style)

/-- What stands between a front and a back is found by their lengths. -/
theorem slice_eq {front part back : String} (h : t.plain = front ++ part ++ back) :
    t.slice front.length (front.length + part.length) = part := by
  rw [slice, h, Nat.add_sub_cancel_left, String.toList_append, String.toList_append,
    List.append_assoc, ← String.length_toList, ← String.length_toList, List.drop_left,
    List.take_left, String.ofList_toList]

theorem shown_empty : shown "" = "" :=
  rfl

/-- A text without characters that are taken out is shown as it is. -/
theorem shown_eq (h : ∀ c ∈ s.toList, isShown c = true) : shown s = s := by
  rw [shown, List.filter_eq_self.mpr h, String.ofList_toList]

theorem append_none (t : StyledText) (s : String) :
    t.append s none = { t with plain := t.plain ++ shown s } := by
  rw [append]
  split
  · next hempty => rw [hempty, shown_empty, String.append_empty]
  · rfl

/-- **A styled piece** leaves a span from the end of the text to the end of the piece. -/
theorem append_some (h : s ≠ "") (t : StyledText) (style : String) :
    t.append s (some style) =
      { t with
        plain := t.plain ++ shown s
        spans := t.spans ++ [⟨t.plain.length, t.plain.length + (shown s).length, style⟩] } := by
  rw [append, if_neg h]

/-- What is appended stands behind the text, whatever its style. -/
theorem plain_append (t : StyledText) (s : String) (style : Option String) :
    (t.append s style).plain = t.plain ++ shown s := by
  rw [append]
  split
  · next hempty => rw [hempty, shown_empty, String.append_empty]
  · rfl

/-- What stands in a text is left alone. -/
theorem slice_append {stop : Nat} (h : stop ≤ t.plain.length) (start : Nat) (s : String)
    (style : Option String) : (t.append s style).slice start stop = t.slice start stop := by
  rw [← String.length_toList] at h
  rw [slice, slice, plain_append, String.toList_append]
  rcases Nat.le_total start stop with hle | hle
  · rw [List.drop_append_of_le_length (hle.trans h),
      List.take_append_of_le_length (by rw [List.length_drop]; omega)]
  · rw [Nat.sub_eq_zero_of_le hle, List.take_zero, List.take_zero]

/-- All spans lie in the text. -/
def IsWithin (t : StyledText) : Prop :=
  ∀ span ∈ t.spans, span.start ≤ span.stop ∧ span.stop ≤ t.plain.length

/-- A styled piece has its span in the text. -/
theorem IsWithin.append (ht : t.IsWithin) (h : s ≠ "") (style : String) :
    (t.append s (some style)).IsWithin := by
  intro span hspan
  rw [append_some h, String.length_append]
  rw [append_some h, List.mem_append, List.mem_singleton] at hspan
  rcases hspan with hbefore | rfl
  · exact ⟨(ht span hbefore).1, (ht span hbefore).2.trans (Nat.le_add_right _ _)⟩
  · exact ⟨Nat.le_add_right _ _, le_rfl⟩

/-- The span of a styled piece comes after those before it. -/
theorem pairwise_append (ht : t.IsWithin) (hspans : t.spans.Pairwise fun a b => a.stop ≤ b.start)
    (h : s ≠ "") (style : String) :
    (t.append s (some style)).spans.Pairwise fun a b => a.stop ≤ b.start := by
  rw [append_some h]
  refine List.pairwise_append.mpr ⟨hspans, List.pairwise_singleton _ _, fun a ha b hb => ?_⟩
  rw [List.mem_singleton.mp hb]
  exact (ht a ha).2

/-- **A styled piece** is drawn behind what was drawn before. -/
theorem drawn_append (ht : t.IsWithin) (h : s ≠ "") (style : String) :
    (t.append s (some style)).drawn = t.drawn ++ [(shown s, style)] := by
  have hplain : (t.append s (some style)).plain = t.plain ++ shown s ++ "" := by
    rw [plain_append, String.append_empty]
  have hlast := slice_eq hplain
  have hspans := congrArg spans (append_some h t style)
  rw [drawn, hspans, List.map_append, List.map_singleton, hlast, drawn]
  refine congrArg (· ++ _) (List.map_congr_left fun span hspan => ?_)
  rw [slice_append (ht span hspan).2]

/-- The spans of pieces from a position on, with a gap of some width between neighbours. -/
def spansFrom (gap start : Nat) : List (String × String) → List Span
  | [] => []
  | (s, style) :: rest =>
    ⟨start, start + s.length, style⟩ :: spansFrom gap (start + s.length + gap) rest

/-- Pieces as they are shown. -/
def shownPieces (pieces : List (String × String)) : List (String × String) :=
  pieces.map fun piece => (shown piece.1, piece.2)

/-- **Pieces with a separator between them** lie one behind the other. -/
theorem appendAll_eq {separator : String} {pieces : List (String × String)}
    (h : ∀ piece ∈ pieces, piece.1 ≠ "") (t : StyledText) :
    appendAll separator t pieces =
      { t with
        plain := t.plain ++ Text.join (shown separator) ((shownPieces pieces).map (·.1))
        spans := t.spans ++
          spansFrom (shown separator).length t.plain.length (shownPieces pieces) } := by
  induction pieces generalizing t with
  | nil =>
      have hjoin : Text.join (shown separator) ((shownPieces []).map (·.1)) = "" := rfl
      have hspans : spansFrom (shown separator).length t.plain.length (shownPieces []) = [] := rfl
      rw [appendAll, hjoin, hspans, String.append_empty, List.append_nil]
  | cons piece pieces ih =>
      obtain ⟨hpiece, hpieces⟩ := List.forall_mem_cons.mp h
      cases pieces with
      | nil => exact append_some hpiece t piece.2
      | cons next pieces =>
          have hstep : appendAll separator t (piece :: next :: pieces) =
              appendAll separator ((t.append piece.1 (some piece.2)).append separator none)
                (next :: pieces) := rfl
          rw [hstep, append_some hpiece, append_none, ih hpieces]
          simp [shownPieces, spansFrom, Text.join_cons_cons, String.append_assoc, Nat.add_assoc]

section SpansFrom

variable {separator front back : String} {piece : String × String}
  {pieces : List (String × String)}

/-- The first of some pieces stands behind the front. -/
theorem slice_first
    (h : t.plain = front ++ Text.join separator ((piece :: pieces).map (·.1)) ++ back) :
    t.slice front.length (front.length + piece.1.length) = piece.1 := by
  cases pieces with
  | nil => exact slice_eq h
  | cons next pieces =>
      have hrest : t.plain = front ++ piece.1 ++
          (separator ++ Text.join separator ((next :: pieces).map (·.1)) ++ back) := by
        simp only [h, List.map_cons, Text.join_cons_cons, String.append_assoc]
      exact slice_eq hrest

/-- The other pieces stand behind the first one and the separator. -/
theorem plain_eq_of_cons {next : String × String}
    (h : t.plain = front ++ Text.join separator ((piece :: next :: pieces).map (·.1)) ++ back) :
    t.plain = (front ++ piece.1 ++ separator) ++
      Text.join separator ((next :: pieces).map (·.1)) ++ back := by
  simp only [h, List.map_cons, Text.join_cons_cons, String.append_assoc]

/-- The spans of the other pieces are placed behind the first one and the separator. -/
theorem spansFrom_cons (separator front : String) (piece : String × String)
    (pieces : List (String × String)) :
    spansFrom separator.length front.length (piece :: pieces) =
      ⟨front.length, front.length + piece.1.length, piece.2⟩ ::
        spansFrom separator.length (front ++ piece.1 ++ separator).length pieces := by
  rw [spansFrom, String.length_append, String.length_append]

/-- **Spans cover their pieces.** -/
theorem map_spansFrom (h : t.plain = front ++ Text.join separator (pieces.map (·.1)) ++ back) :
    (spansFrom separator.length front.length pieces).map
      (fun span => (t.slice span.start span.stop, span.style)) = pieces := by
  induction pieces generalizing front with
  | nil => rfl
  | cons piece pieces ih =>
      rw [spansFrom_cons, List.map_cons, slice_first h]
      cases pieces with
      | nil => rfl
      | cons next pieces => rw [ih (plain_eq_of_cons h)]

/-- **Gaps between neighbours** are the separator. -/
theorem isChain_spansFrom
    (h : t.plain = front ++ Text.join separator (pieces.map (·.1)) ++ back) :
    (spansFrom separator.length front.length pieces).IsChain
      fun a b => t.slice a.stop b.start = separator := by
  induction pieces generalizing front with
  | nil => exact List.isChain_nil
  | cons piece pieces ih =>
      cases pieces with
      | nil => exact List.isChain_singleton _
      | cons next pieces =>
          have hrest := ih (plain_eq_of_cons h)
          rw [spansFrom_cons] at hrest
          rw [spansFrom_cons, spansFrom_cons]
          refine List.isChain_cons_cons.mpr ⟨?_, hrest⟩
          have hplain : t.plain = front ++ piece.1 ++ separator ++
              (Text.join separator ((next :: pieces).map (·.1)) ++ back) :=
            (plain_eq_of_cons h).trans (String.append_assoc ..)
          simpa only [String.length_append] using slice_eq hplain

/-- Spans lie between the position from which they are placed and the end of their pieces. -/
theorem mem_spansFrom {span : Span} (h : span ∈ spansFrom separator.length front.length pieces) :
    front.length ≤ span.start ∧ span.start ≤ span.stop ∧
      span.stop ≤ front.length + (Text.join separator (pieces.map (·.1))).length := by
  induction pieces generalizing front with
  | nil => simp [spansFrom] at h
  | cons piece pieces ih =>
      rw [spansFrom_cons] at h
      rcases List.mem_cons.mp h with rfl | hrest
      · have hfirst := Text.length_le_join separator piece.1 (pieces.map (·.1))
        simpa using hfirst
      · have hlies := ih hrest
        cases pieces with
        | nil => simp [spansFrom] at hrest
        | cons next pieces =>
            simp only [List.map_cons, Text.join_cons_cons, String.length_append] at hlies ⊢
            omega

/-- **No span reaches into the next one.** -/
theorem pairwise_spansFrom (separator front : String) (pieces : List (String × String)) :
    (spansFrom separator.length front.length pieces).Pairwise fun a b => a.stop ≤ b.start := by
  induction pieces generalizing front with
  | nil => exact List.Pairwise.nil
  | cons piece pieces ih =>
      rw [spansFrom_cons]
      refine List.pairwise_cons.mpr ⟨fun span hspan => ?_, ih _⟩
      have hstart := (mem_spansFrom hspan).1
      rw [String.length_append, String.length_append] at hstart
      exact (Nat.le_add_right _ separator.length).trans hstart

/-- **Pieces with a separator between them** are drawn one after the other. -/
theorem drawn_appendAll (h : ∀ piece ∈ pieces, piece.1 ≠ "") (separator : String) :
    (appendAll separator {} pieces).drawn = shownPieces pieces := by
  have htext : appendAll separator {} pieces = _ := appendAll_eq h {}
  have hspans := congrArg spans htext
  have hplain : (appendAll separator {} pieces).plain =
      "" ++ Text.join (shown separator) ((shownPieces pieces).map (·.1)) ++ "" := by
    rw [htext, String.append_empty]
  rw [drawn, hspans, List.nil_append]
  exact map_spansFrom hplain

end SpansFrom

end StyledText

end Catalogue
