import Mathlib
import Catalogue.Proofs.Tally

/-!
# The most frequent names

The first entries of a ranking are selected in one pass.  Every entry is placed among those selected
so far, and what exceeds the limit is dropped.  An entry that is dropped is not missed later, since
no later entry moves it forward (`take_place_take`); so the selection is what the full ranking
begins with (`top_eq_take_ranked`).  Of a list it tells the most frequent names, and how often they
occur (`isTopOf_top`).
-/

namespace Catalogue.Tally

/-- A ranking of a tally: the entries by descending count, those with one count as they stood. -/
structure IsRankingOf (ranking tally : Tally) : Prop where
  ordered : ranking.Pairwise fun a b => b.2 ≤ a.2
  stable : ∀ n, ranking.filter (·.2 = n) = tally.filter (·.2 = n)

/-- There is one ranking of a tally. -/
theorem IsRankingOf.unique {tally ranking other : Tally} (h : ranking.IsRankingOf tally)
    (hother : other.IsRankingOf tally) : ranking = other := by
  have hties : ∀ a : String × Nat,
      (fun b : String × Nat => decide (b.2 ≤ a.2) && decide (a.2 ≤ b.2)) =
        fun b => decide (b.2 = a.2) := by
    intro a
    funext b
    rw [Bool.eq_iff_iff, Bool.and_eq_true, decide_eq_true_eq, decide_eq_true_eq,
      decide_eq_true_eq, le_antisymm_iff]
  refine eq_of_filter_ties descending_total (h.ordered.imp decide_eq_true)
    (hother.ordered.imp decide_eq_true) fun a => ?_
  rw [hties, h.stable, hother.stable]

theorem isRankingOf_ranked (tally : Tally) : tally.ranked.IsRankingOf tally where
  ordered :=
    (List.pairwise_mergeSort descending_trans descending_total tally).imp of_decide_eq_true
  stable n := by
    refine filter_mergeSort descending_trans descending_total tally fun a b ha hb => ?_
    rw [decide_eq_true_eq] at ha hb ⊢
    rw [ha, hb]

theorem mem_place {tally : Tally} {entry other : String × Nat} :
    other ∈ tally.place entry ↔ other = entry ∨ other ∈ tally := by
  induction tally with
  | nil => rw [place, List.mem_singleton, or_iff_left List.not_mem_nil]
  | cons first rest ih =>
      rw [place]
      split
      · rw [List.mem_cons, ih, List.mem_cons, or_left_comm]
      · rw [List.mem_cons]

/-- Placing keeps the descending order. -/
theorem pairwise_place {ranking : Tally} (h : ranking.Pairwise fun a b => b.2 ≤ a.2)
    (entry : String × Nat) : (ranking.place entry).Pairwise fun a b => b.2 ≤ a.2 := by
  induction ranking with
  | nil => exact List.pairwise_singleton _ _
  | cons first rest ih =>
      obtain ⟨hfirst, hrest⟩ := List.pairwise_cons.mp h
      rw [place]
      split
      · next hle =>
        refine List.pairwise_cons.mpr ⟨fun other hother => ?_, ih hrest⟩
        rcases mem_place.mp hother with rfl | hother
        · exact hle
        · exact hfirst other hother
      · next hlt =>
        have hle : first.2 ≤ entry.2 := (Nat.lt_of_not_le hlt).le
        refine List.pairwise_cons.mpr ⟨fun other hother => ?_, h⟩
        rcases List.mem_cons.mp hother with rfl | hother
        · exact hle
        · exact (hfirst other hother).trans hle

/-- In a ranking an entry is placed behind all others with its count. -/
theorem filter_place {ranking : Tally} (h : ranking.Pairwise fun a b => b.2 ≤ a.2)
    (entry : String × Nat) (n : Nat) :
    (ranking.place entry).filter (·.2 = n) = (ranking ++ [entry]).filter (·.2 = n) := by
  induction ranking with
  | nil => rfl
  | cons first rest ih =>
      obtain ⟨hfirst, hrest⟩ := List.pairwise_cons.mp h
      rw [place]
      split
      · rw [List.cons_append, List.filter_cons, List.filter_cons, ih hrest]
      · next hlt =>
        -- Everything from here on has a smaller count, so none of it has the count of the entry.
        have hsmall : ∀ other ∈ first :: rest, other.2 < entry.2 := by
          intro other hother
          rcases List.mem_cons.mp hother with rfl | hother
          · exact Nat.lt_of_not_le hlt
          · exact (hfirst other hother).trans_lt (Nat.lt_of_not_le hlt)
        by_cases hcount : entry.2 = n
        · have hnone : (first :: rest).filter (·.2 = n) = [] := by
            refine List.filter_eq_nil_iff.mpr fun other hother hsame => ?_
            exact absurd (of_decide_eq_true hsame) (hcount ▸ (hsmall other hother).ne)
          rw [List.filter_append, hnone, List.filter_cons, hnone]
          simp [hcount]
        · rw [List.filter_append, List.filter_cons]
          simp [hcount]

/-- Placing the next entry of a tally ranks it with the ones before. -/
theorem IsRankingOf.place {ranking tally : Tally} (h : ranking.IsRankingOf tally)
    (entry : String × Nat) : (ranking.place entry).IsRankingOf (tally ++ [entry]) where
  ordered := pairwise_place h.ordered entry
  stable n := by
    rw [filter_place h.ordered, List.filter_append, h.stable, List.filter_append]

/-- Placing one entry after the other ranks a tally. -/
theorem foldl_place (tally : Tally) : tally.foldl place [] = tally.ranked := by
  have hranking : (tally.foldl place []).IsRankingOf tally := by
    induction tally using List.reverseRecOn with
    | nil => exact ⟨List.Pairwise.nil, fun _ => rfl⟩
    | append_singleton tally entry ih =>
        rw [List.foldl_concat]
        exact ih.place entry
  exact hranking.unique (isRankingOf_ranked tally)

/-- What is dropped before an entry is placed would be dropped afterwards. -/
theorem take_place_take (tally : Tally) (entry : String × Nat) (n : Nat) :
    (place (tally.take n) entry).take n = (tally.place entry).take n := by
  induction tally generalizing n with
  | nil => rw [List.take_nil]
  | cons other rest ih =>
      cases n with
      | zero => rw [List.take_zero, List.take_zero]
      | succ n =>
          rw [List.take_succ_cons, place, place]
          split
          · rw [List.take_succ_cons, List.take_succ_cons, ih]
          · have hagain : ((other :: rest).take (n + 1)).take n = (other :: rest).take n := by
              rw [List.take_take, Nat.min_eq_left (Nat.le_succ n)]
            rw [List.take_succ_cons] at hagain
            rw [List.take_succ_cons, List.take_succ_cons, hagain]

/-- Dropping entries after every step is dropping them at the end. -/
theorem foldl_take_place (tally best : Tally) (n : Nat) :
    tally.foldl (fun best entry => (place best entry).take n) (best.take n) =
      (tally.foldl place best).take n := by
  induction tally generalizing best with
  | nil => rfl
  | cons entry tally ih => rw [List.foldl_cons, List.foldl_cons, take_place_take, ih]

/-- **Selection in one pass.**  What is selected is what the full ranking begins with. -/
theorem top_eq_take_ranked (tally : Tally) (limit : Int) :
    tally.top limit = tally.ranked.take limit.toNat := by
  have hselect := foldl_take_place tally [] limit.toNat
  rwa [List.take_nil, foldl_place] at hselect

/-- In the ranking of a list one name comes before another: it occurs more often, or as often, and
for the first time earlier. -/
def Outranks (counted : List String) (name other : String) : Prop :=
  counted.count other < counted.count name ∨
    counted.count other = counted.count name ∧ counted.idxOf name < counted.idxOf other

/-- A table of the names that occur most often in a list. -/
structure IsTopOf (table : Tally) (limit : Nat) (counted : List String) : Prop where
  /-- There is a row for each name as long as there are no more names than rows. -/
  length_eq : table.length = min limit counted.toFinset.card
  /-- Every name has one row. -/
  nodup : table.names.Nodup
  /-- A row tells how often its name occurs in the list, which it does. -/
  counts : ∀ row ∈ table, row.1 ∈ counted ∧ row.2 = counted.count row.1
  /-- The rows are ranked. -/
  ranked : table.names.Pairwise (Outranks counted)
  /-- The names that have no row come after those that have one. -/
  rest : ∀ other ∈ counted, other ∉ table.names → ∀ name ∈ table.names, Outranks counted name other

/-- No name occurs more often than that of the first row. -/
theorem IsTopOf.count_le {first : String × Nat} {rest : Tally} {limit : Nat}
    {counted : List String} (h : IsTopOf (first :: rest) limit counted) {name : String}
    (hname : name ∈ counted) : counted.count name ≤ first.2 := by
  have hfirst : first.1 ∈ names (first :: rest) := List.mem_map_of_mem List.mem_cons_self
  rw [(h.counts first List.mem_cons_self).2]
  by_cases hlisted : name ∈ names (first :: rest)
  · rw [names_cons] at hlisted
    rcases List.mem_cons.mp hlisted with rfl | hrest
    · exact le_rfl
    · have hranked := (List.pairwise_cons.mp h.ranked).1 name hrest
      exact hranked.elim Nat.le_of_lt fun htie => htie.1.le
  · exact (h.rest name hname hlisted first.1 hfirst).elim Nat.le_of_lt fun htie => htie.1.le

/-- A tally has as many entries as its list has different names. -/
theorem IsTallyOf.length_eq {tally : Tally} {counted : List String} (h : tally.IsTallyOf counted) :
    tally.length = counted.toFinset.card := by
  have hsame : tally.names.toFinset = counted.toFinset := by
    ext name
    rw [List.mem_toFinset, List.mem_toFinset, h.mem_names]
  rw [← hsame, List.toFinset_card_of_nodup h.nodup, names, List.length_map]

theorem isTallyOf_ranked (counted : List String) : (ofList counted).ranked.IsTallyOf counted :=
  (isTallyOf_ofList counted).of_perm (ranked_perm _)

/-- The names of the full ranking are ranked. -/
theorem pairwise_outranks (counted : List String) :
    (ofList counted).ranked.names.Pairwise (Outranks counted) := by
  rw [names, List.pairwise_map]
  refine (pairwise_ranked counted).imp_of_mem fun {row other} hrow hother hranked => ?_
  rwa [Outranks, ← (isTallyOf_ranked counted).snd_eq hrow,
    ← (isTallyOf_ranked counted).snd_eq hother]

/-- **The most frequent names.**  What is selected from the tally of a list is a table of the names
that occur most often in it. -/
theorem isTopOf_top (counted : List String) (limit : Nat) :
    ((ofList counted).top limit).IsTopOf limit counted := by
  have htally := isTallyOf_ranked counted
  have hranked := pairwise_outranks counted
  have htop : (ofList counted).top limit = (ofList counted).ranked.take limit :=
    top_eq_take_ranked _ _
  have hnames : ((ofList counted).top limit).names = (ofList counted).ranked.names.take limit := by
    rw [htop, names, names, List.map_take]
  constructor
  · rw [htop, List.length_take, htally.length_eq]
  · rw [hnames]
    exact htally.nodup.sublist (List.take_sublist _ _)
  · intro row hrow
    rw [htop] at hrow
    have hlisted := List.mem_of_mem_take hrow
    exact ⟨(htally.mem_names _).mp (List.mem_map_of_mem hlisted), htally.snd_eq hlisted⟩
  · rw [hnames]
    exact hranked.sublist (List.take_sublist _ _)
  · intro other hother hout name hname
    rw [hnames] at hout hname
    rw [← List.take_append_drop limit (ofList counted).ranked.names,
      List.pairwise_append] at hranked
    have hlisted := (htally.mem_names other).mpr hother
    rw [← List.take_append_drop limit (ofList counted).ranked.names, List.mem_append] at hlisted
    exact hranked.2.2 name hname other (hlisted.resolve_left hout)

/-- Three names occur once; the one that is met first has the last row. -/
example : (ofList ["b", "a", "c", "a", "d"]).top 2 = [("a", 2), ("b", 1)] := by decide

end Catalogue.Tally
