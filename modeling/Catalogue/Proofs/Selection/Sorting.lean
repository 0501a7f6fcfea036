import Mathlib
import Catalogue.Proofs.Number.Order
import Catalogue.Proofs.StableSort
import Catalogue.Selection

/-!
# Sorting by keys

Each order of records compares keys: the instants of dates as doubles, or the collation keys of
titles and authors.  The keys that occur are linearly ordered (`before_trans`, `before_total`,
`sameKey_iff`).  So sorting arranges the records by their keys and keeps the order of those with
equal keys, also when it starts with the newest date (`isStableSort_sorted`).

Stability is said of whole lists: for every key, the records that have it form the same list before
and after sorting.  This determines their order also when records occur more than once.
-/

namespace Catalogue

namespace Timestamp

/-- The key of a date is a number. -/
theorem sortKey_ne_notNumber (t : Option Timestamp) : sortKey t ≠ .notNumber := by
  cases t with
  | none => simp [sortKey]
  | some t =>
      rw [sortKey, Binary64.ofRatio, Binary64.ofQuanta]
      exact Binary64.ofMagnitude_ne_notNumber _ _

/-- Of the two zeros only the positive one is the key of a date. -/
theorem sortKey_ne_negZero (t : Option Timestamp) : sortKey t ≠ .negZero := by
  have hunit : 1000000 ≤ Binary64.unit := by decide +kernel
  cases t with
  | none => simp [sortKey]
  | some t =>
      rw [sortKey, Binary64.ofRatio]
      exact Binary64.ofQuanta_mul_ne_negZero _ (by decide) hunit

end Timestamp

namespace CollationKey

/-- The three components of a key, to be compared one after the other. -/
def components (key : CollationKey) : List Char ×ₗ List Char ×ₗ List Char :=
  toLex (key.base, toLex (key.folded, key.swapped))

/-- The components of a collation key tell it from all others. -/
theorem components_injective : Function.Injective components := by
  rintro ⟨base, folded, swapped⟩ ⟨base', folded', swapped'⟩ h
  simpa [components] using h

/-- Keys are ordered like their components. -/
theorem le_iff {a b : CollationKey} : a.le b = true ↔ a.components ≤ b.components := by
  rw [components, components, Prod.Lex.toLex_le_toLex, Prod.Lex.toLex_le_toLex,
    le_iff_lt_or_eq (a := a.swapped)]
  simp [le]

end CollationKey

namespace Selection

variable {order : SortOrder} {a b : Record}

/-- Which record may stand before another, by the keys of an order. -/
theorem before_iff :
    before order a b = true ↔
      match order with
      | .dateNewest => (dateKey b).value ≤ (dateKey a).value
      | .dateOldest => (dateKey a).value ≤ (dateKey b).value
      | .titleAsc =>
          (CollationKey.ofText (titleText a)).components ≤
            (CollationKey.ofText (titleText b)).components
      | .authorAsc =>
          (CollationKey.ofText (authorText a)).components ≤
            (CollationKey.ofText (authorText b)).components := by
  cases order with
  | dateNewest => simp [before, dateKey, Binary64.le_iff, Timestamp.sortKey_ne_notNumber]
  | dateOldest => simp [before, dateKey, Binary64.le_iff, Timestamp.sortKey_ne_notNumber]
  | titleAsc => exact CollationKey.le_iff
  | authorAsc => exact CollationKey.le_iff

/-- Each order is transitive, as its keys are. -/
theorem before_trans (order : SortOrder) (a b c : Record) (hab : before order a b = true)
    (hbc : before order b c = true) : before order a c = true := by
  rw [before_iff] at hab hbc ⊢
  cases order with
  | dateNewest => exact hbc.trans hab
  | dateOldest => exact hab.trans hbc
  | titleAsc => exact hab.trans hbc
  | authorAsc => exact hab.trans hbc

/-- Of any two records one comes first, or they tie. -/
theorem before_total (order : SortOrder) (a b : Record) :
    (before order a b || before order b a) = true := by
  rw [Bool.or_eq_true, before_iff, before_iff]
  cases order <;> exact le_total _ _

/-- Two records have equal keys in an order. -/
def SameKey (order : SortOrder) (a b : Record) : Prop :=
  match order with
  | .dateNewest => dateKey a = dateKey b
  | .dateOldest => dateKey a = dateKey b
  | .titleAsc => CollationKey.ofText (titleText a) = CollationKey.ofText (titleText b)
  | .authorAsc => CollationKey.ofText (authorText a) = CollationKey.ofText (authorText b)

instance (order : SortOrder) (a b : Record) : Decidable (SameKey order a b) :=
  match order with
  | .dateNewest => inferInstanceAs (Decidable (_ = _))
  | .dateOldest => inferInstanceAs (Decidable (_ = _))
  | .titleAsc => inferInstanceAs (Decidable (_ = _))
  | .authorAsc => inferInstanceAs (Decidable (_ = _))

theorem sameKey_refl (order : SortOrder) (a : Record) : SameKey order a a := by
  cases order <;> rfl

/-- Records with equal keys are those that may stand before each other. -/
theorem sameKey_iff :
    SameKey order a b ↔ before order a b = true ∧ before order b a = true := by
  have hdate : ∀ r s : Record, dateKey r = dateKey s ↔ (dateKey r).value = (dateKey s).value :=
    fun r s => ⟨congrArg _, Binary64.eq_of_value_eq
      ⟨Timestamp.sortKey_ne_notNumber _, Timestamp.sortKey_ne_negZero _⟩
      ⟨Timestamp.sortKey_ne_notNumber _, Timestamp.sortKey_ne_negZero _⟩⟩
  have htext : ∀ k l : CollationKey, k = l ↔ k.components = l.components :=
    fun k l => CollationKey.components_injective.eq_iff.symm
  rw [before_iff, before_iff]
  cases order with
  | dateNewest => rw [SameKey, hdate, ge_antisymm_iff]
  | dateOldest => rw [SameKey, hdate, le_antisymm_iff]
  | titleAsc => rw [SameKey, htext, le_antisymm_iff]
  | authorAsc => rw [SameKey, htext, le_antisymm_iff]

/-- A list is another one sorted by an order, records with equal keys as they stood. -/
structure IsStableSort (order : SortOrder) (rs sorted : List Record) : Prop where
  /-- Every record occurs as often as before. -/
  perm : sorted.Perm rs
  /-- No record has a key that should come earlier than one in front of it. -/
  ordered : sorted.Pairwise fun a b => before order a b = true
  /-- The records with one key are the same list as before. -/
  stable : ∀ r, sorted.filter (SameKey order r ·) = rs.filter (SameKey order r ·)

/-- Two lists in order are equal if they agree on the records with each key. -/
theorem eq_of_filter_sameKey {l l' : List Record}
    (hl : l.Pairwise fun a b => before order a b = true)
    (hl' : l'.Pairwise fun a b => before order a b = true)
    (h : ∀ r, l.filter (SameKey order r ·) = l'.filter (SameKey order r ·)) : l = l' := by
  refine eq_of_filter_ties (before_total order) hl hl' fun r => ?_
  have hties : (fun s => before order r s && before order s r) =
      fun s => decide (SameKey order r s) := by
    funext s
    rw [Bool.eq_iff_iff, Bool.and_eq_true, decide_eq_true_iff, sameKey_iff]
  rw [hties]
  exact h r

/-- There is one stable sort of a list. -/
theorem IsStableSort.unique {rs l l' : List Record} (h : IsStableSort order rs l)
    (h' : IsStableSort order rs l') : l = l' :=
  eq_of_filter_sameKey h.ordered h'.ordered fun r => (h.stable r).trans (h'.stable r).symm

/-- Sorting keeps every record. -/
theorem sorted_perm (rs : List Record) (order : SortOrder) : (sorted rs order).Perm rs :=
  List.mergeSort_perm rs (before order)

/-- **Sorting is stable.**  Sorting arranges records by their keys and keeps the order of those with
equal keys. -/
theorem isStableSort_sorted (rs : List Record) (order : SortOrder) :
    IsStableSort order rs (sorted rs order) where
  perm := sorted_perm rs order
  ordered := List.pairwise_mergeSort (before_trans order) (before_total order) rs
  stable r := by
    refine filter_mergeSort (before_trans order) (before_total order) rs fun a b ha hb => ?_
    simp only [decide_eq_true_eq, sameKey_iff] at ha hb
    exact before_trans order a r b ha.2 hb.1

/-- A list in order is left as it is. -/
theorem sorted_eq_self {rs : List Record} (h : rs.Pairwise fun a b => before order a b = true) :
    sorted rs order = rs :=
  List.mergeSort_of_pairwise h

end Selection

end Catalogue
