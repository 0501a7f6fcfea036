import Mathlib
import Catalogue.Proofs.StableSort
import Catalogue.Tally

/-!
# Counting and ranking names

Counting a list gives a tally of it: every name of the list is listed once, with the number of times
that it occurs (`isTallyOf_ofList`).  The names stand in the order in which they first occur, and
the ranking keeps that order among names with equal counts (`pairwise_ranked`).
-/

namespace Catalogue

section FirstOccurrences

variable {α : Type} [BEq α] [LawfulBEq α]

/-- Without repetitions the elements of a list stand in the order of their first occurrences. -/
theorem pairwise_eraseDups (l : List α) :
    l.eraseDups.Pairwise fun a b => l.idxOf a < l.idxOf b := by
  induction l using List.reverseRecOn with
  | nil => simp
  | append_singleton l c ih =>
      rw [List.eraseDups_append, List.pairwise_append]
      refine ⟨ih.imp_of_mem fun {a b} ha hb hab => ?_, ?_, fun a ha b hb => ?_⟩
      · rw [List.mem_eraseDups] at ha hb
        rwa [List.idxOf_append_of_mem ha, List.idxOf_append_of_mem hb]
      · by_cases hc : c ∈ l <;> simp [List.removeAll, hc, List.eraseDups_cons]
      · rw [List.mem_eraseDups] at ha
        obtain ⟨-, hnew⟩ : b ∈ [c] ∧ b ∉ l := by simpa [List.removeAll] using hb
        have hfirst : l.idxOf a < l.length := List.idxOf_lt_length_of_mem ha
        rw [List.idxOf_append_of_mem ha, List.idxOf_append_of_notMem hnew]
        omega

theorem nodup_eraseDups (l : List α) : l.eraseDups.Nodup := by
  refine (pairwise_eraseDups l).imp fun {a b} hab heq => ?_
  rw [heq] at hab
  exact lt_irrefl _ hab

/-- Leaving out other elements keeps the order of first occurrences. -/
theorem idxOf_lt_of_filter {p : α → Bool} {l : List α} {a b : α} (ha : p a = true)
    (hb : p b = true) (h : (l.filter p).idxOf a < (l.filter p).idxOf b) :
    l.idxOf a < l.idxOf b := by
  induction l with
  | nil => exact h
  | cons c l ih =>
      by_cases hc : p c = true
      · rw [List.filter_cons_of_pos hc] at h
        rw [List.idxOf_cons, List.idxOf_cons] at h ⊢
        cases hca : c == a with
        | true =>
            cases hcb : c == b with
            | true => simp [hca, hcb] at h
            | false => exact Nat.succ_pos _
        | false =>
            cases hcb : c == b with
            | true => simp [hca, hcb] at h
            | false =>
                rw [hca, hcb] at h
                exact Nat.succ_lt_succ (ih (Nat.lt_of_succ_lt_succ h))
      · rw [List.filter_cons_of_neg hc] at h
        have hca : c ≠ a := fun heq => hc (heq ▸ ha)
        have hcb : c ≠ b := fun heq => hc (heq ▸ hb)
        rw [List.idxOf_cons_ne l hca, List.idxOf_cons_ne l hcb]
        exact Nat.succ_lt_succ (ih h)

end FirstOccurrences

namespace Tally

/-- The names of a tally. -/
def names (tally : Tally) : List String :=
  tally.map (·.1)

/-- A tally of a list: every name once, with the number of times that it occurs in the list. -/
structure IsTallyOf (tally : Tally) (counted : List String) : Prop where
  nodup : tally.names.Nodup
  mem_names : ∀ name, name ∈ tally.names ↔ name ∈ counted
  count_eq : ∀ name, tally.count name = counted.count name

theorem names_cons (entry : String × Nat) (tally : Tally) :
    names (entry :: tally) = entry.1 :: tally.names :=
  rfl

/-- The first row of a name has its count. -/
theorem count_cons (entry : String × Nat) (tally : Tally) (name : String) :
    count (entry :: tally) name = if name = entry.1 then entry.2 else tally.count name := by
  obtain ⟨other, n⟩ := entry
  by_cases h : name = other
  · simp [count, h]
  · have hother : (name == other) = false := beq_false_of_ne h
    simp [count, List.lookup_cons, hother, h]

/-- A name that is met for the first time is listed last. -/
theorem names_add (tally : Tally) (name : String) :
    (tally.add name).names = if name ∈ tally.names then tally.names else tally.names ++ [name] := by
  induction tally with
  | nil => rfl
  | cons entry rest ih =>
      rw [add]
      split
      · next hsame => simp [names_cons, hsame]
      · next hother =>
          have hne : name ≠ entry.1 := fun heq => hother heq.symm
          rw [names_cons, names_cons, ih]
          by_cases hrest : name ∈ names rest <;> simp [hrest, hne]

/-- Only the name that is met is counted once more. -/
theorem count_add (tally : Tally) (name other : String) :
    (tally.add name).count other = tally.count other + if other = name then 1 else 0 := by
  induction tally with
  | nil =>
      have hnone : count [] other = 0 := rfl
      rw [add, count_cons, hnone, Nat.zero_add]
  | cons entry rest ih =>
      rw [add]
      split
      · next hsame =>
          rw [count_cons, count_cons, hsame]
          split <;> simp_all
      · next hother =>
          rw [count_cons, count_cons, ih]
          split
          · next heq =>
              have hne : other ≠ name := fun hname => hother (heq ▸ hname)
              rw [if_neg hne, Nat.add_zero]
          · rfl

/-- Meeting one more name keeps the tally right. -/
theorem IsTallyOf.add {tally : Tally} {counted : List String} (h : tally.IsTallyOf counted)
    (name : String) : (tally.add name).IsTallyOf (counted ++ [name]) where
  nodup := by
    rw [names_add]
    split
    · exact h.nodup
    · next hnew => exact List.concat_eq_append ▸ h.nodup.concat hnew
  mem_names other := by
    rw [names_add]
    split
    · next hold =>
        rw [List.mem_append, List.mem_singleton, h.mem_names]
        refine ⟨Or.inl, ?_⟩
        rintro (hother | rfl)
        · exact hother
        · exact (h.mem_names _).mp hold
    · rw [List.mem_append, List.mem_append, h.mem_names]
  count_eq other := by
    have hsame : (name == other) = true ↔ other = name := by rw [beq_iff_eq, eq_comm]
    simp only [count_add, h.count_eq, List.count_append, List.count_singleton, hsame]

/-- One more name is counted last. -/
theorem ofList_append_singleton (counted : List String) (name : String) :
    ofList (counted ++ [name]) = (ofList counted).add name := by
  rw [ofList, List.foldl_append]
  rfl

/-- **Counting.**  Counting a list gives a tally of it. -/
theorem isTallyOf_ofList (counted : List String) : (ofList counted).IsTallyOf counted := by
  induction counted using List.reverseRecOn with
  | nil => exact ⟨List.nodup_nil, fun _ => Iff.rfl, fun _ => rfl⟩
  | append_singleton counted name ih =>
      rw [ofList_append_singleton]
      exact ih.add name

/-- The names are listed in the order in which they first occur. -/
theorem names_ofList (counted : List String) : (ofList counted).names = counted.eraseDups := by
  induction counted using List.reverseRecOn with
  | nil => rfl
  | append_singleton counted name ih =>
      have hmem : name ∈ (ofList counted).names ↔ name ∈ counted :=
        (isTallyOf_ofList counted).mem_names name
      rw [ofList_append_singleton, names_add, List.eraseDups_append, ← ih]
      by_cases hold : name ∈ counted <;> simp [List.removeAll, hmem, hold, List.eraseDups_cons]

/-- What stands in an entry is what is looked up. -/
theorem count_of_mem {tally : Tally} (h : tally.names.Nodup) {entry : String × Nat}
    (hentry : entry ∈ tally) : tally.count entry.1 = entry.2 := by
  induction tally with
  | nil => simp at hentry
  | cons first rest ih =>
      rw [names_cons, List.nodup_cons] at h
      rw [count_cons]
      rcases List.mem_cons.mp hentry with rfl | hrest
      · rw [if_pos rfl]
      · have hlisted : entry.1 ∈ names rest := List.mem_map_of_mem hrest
        have hne : entry.1 ≠ first.1 := fun heq => h.1 (heq ▸ hlisted)
        rw [if_neg hne, ih h.2 hrest]

/-- An entry is listed when its name is, with its count. -/
theorem mem_iff_count_eq {tally : Tally} (h : tally.names.Nodup) {entry : String × Nat} :
    entry ∈ tally ↔ entry.1 ∈ tally.names ∧ entry.2 = tally.count entry.1 := by
  constructor
  · intro hentry
    exact ⟨List.mem_map_of_mem hentry, (count_of_mem h hentry).symm⟩
  · rintro ⟨hname, hcount⟩
    obtain ⟨other, hother, hsame⟩ := List.mem_map.mp hname
    have hsecond : other.2 = entry.2 := by rw [hcount, ← hsame, count_of_mem h hother]
    rwa [Prod.ext hsame hsecond] at hother

/-- A name that is not listed has been counted zero times. -/
theorem count_of_notMem {tally : Tally} {name : String} (h : name ∉ tally.names) :
    tally.count name = 0 := by
  induction tally with
  | nil => rfl
  | cons first rest ih =>
      rw [names_cons, List.mem_cons, not_or] at h
      rw [count_cons, if_neg h.1, ih h.2]

namespace IsTallyOf

variable {tally : Tally} {counted : List String}

/-- Every entry has the number of times that its name occurs. -/
theorem snd_eq (h : tally.IsTallyOf counted) {entry : String × Nat} (hentry : entry ∈ tally) :
    entry.2 = counted.count entry.1 :=
  (count_of_mem h.nodup hentry).symm.trans (h.count_eq _)

/-- In another order the entries are still a tally of the same list. -/
theorem of_perm {other : Tally} (h : tally.IsTallyOf counted) (hperm : other.Perm tally) :
    other.IsTallyOf counted := by
  have hnames : other.names.Perm tally.names := hperm.map _
  have hnodup : other.names.Nodup := hnames.nodup_iff.mpr h.nodup
  have hmem : ∀ name, name ∈ other.names ↔ name ∈ counted := fun name => by
    rw [hnames.mem_iff, h.mem_names]
  refine ⟨hnodup, hmem, fun name => ?_⟩
  by_cases hlisted : name ∈ other.names
  · obtain ⟨entry, hentry, rfl⟩ := List.mem_map.mp hlisted
    rw [count_of_mem hnodup hentry, h.snd_eq (hperm.mem_iff.mp hentry)]
  · have huncounted : name ∉ counted := fun hc => hlisted ((hmem name).mpr hc)
    rw [count_of_notMem hlisted, List.count_eq_zero_of_not_mem huncounted]

end IsTallyOf

/-- Ranking moves rows only. -/
theorem ranked_perm (tally : Tally) : tally.ranked.Perm tally :=
  List.mergeSort_perm tally _

/-- Sorting by name moves rows only. -/
theorem byName_perm (tally : Tally) : tally.byName.Perm tally :=
  List.mergeSort_perm tally _

/-- Counts in descending order: an order of entries by which a ranking is sorted. -/
theorem descending_trans (a b c : String × Nat) (hab : decide (b.2 ≤ a.2) = true)
    (hbc : decide (c.2 ≤ b.2) = true) : decide (c.2 ≤ a.2) = true := by
  rw [decide_eq_true_eq] at hab hbc ⊢
  exact hbc.trans hab

theorem descending_total (a b : String × Nat) :
    (decide (b.2 ≤ a.2) || decide (a.2 ≤ b.2)) = true := by
  rw [Bool.or_eq_true, decide_eq_true_eq, decide_eq_true_eq]
  exact le_total _ _

/-- **Ranking.**  Names are ranked by descending count, and names with equal counts by their first
occurrence. -/
theorem pairwise_ranked (counted : List String) :
    (ofList counted).ranked.Pairwise fun a b =>
      b.2 < a.2 ∨ b.2 = a.2 ∧ counted.idxOf a.1 < counted.idxOf b.1 := by
  have hnames : (ofList counted).Pairwise fun a b => counted.idxOf a.1 < counted.idxOf b.1 := by
    have hfirst := pairwise_eraseDups counted
    rwa [← names_ofList, names, List.pairwise_map] at hfirst
  have hranked := pairwise_mergeSort_ties descending_trans descending_total hnames
  refine hranked.imp fun {a b} ⟨hle, htie⟩ => ?_
  rw [decide_eq_true_eq] at hle
  rcases Nat.lt_or_eq_of_le hle with hlt | heq
  · exact Or.inl hlt
  · exact Or.inr ⟨heq, htie (decide_eq_true heq.ge)⟩

/-- Different names by name are strictly increasing. -/
theorem pairwise_byName {tally : Tally} (h : tally.names.Nodup) :
    tally.byName.names.Pairwise (· < ·) := by
  have hperm : tally.byName.names.Perm tally.names := (byName_perm tally).map _
  have hsorted : tally.byName.names.Pairwise (· ≤ ·) := by
    rw [names, List.pairwise_map]
    have hle : tally.byName.Pairwise fun a b => decide (a.1 ≤ b.1) = true := by
      refine List.pairwise_mergeSort (fun a b c hab hbc => ?_) (fun a b => ?_) tally
      · rw [decide_eq_true_eq] at hab hbc ⊢
        exact hab.trans hbc
      · rw [Bool.or_eq_true, decide_eq_true_eq, decide_eq_true_eq]
        exact le_total _ _
    exact hle.imp fun hab => of_decide_eq_true hab
  have hnodup : tally.byName.names.Pairwise (· ≠ ·) := hperm.nodup_iff.mpr h
  exact (hsorted.and hnodup).imp fun hab => lt_of_le_of_ne hab.1 hab.2

end Tally

end Catalogue
