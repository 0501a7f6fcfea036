import Mathlib
import Catalogue.Proofs.Number.Ratio
import Catalogue.Proofs.Selection.Sorting
import Catalogue.Proofs.Timestamp.Instant

/-!
# Dates in order

The key of a date is its instant in seconds, an exact quotient of microseconds that is rounded to a
double once (`IsWellFormed.sortKey_eq`).  Rounding keeps the order of instants (`value_sortKey_le`),
so an earlier record never has the larger key; near the beginning of 1970, where doubles are closer
together than microseconds, it has the smaller one (`value_sortKey_lt`).  What is true of keys is
true of places in the sorted list (`sorted_isDated`), and the records without a date, whose key is
below all others, stand at one end of it as they came (`sorted_oldest_eq`, `sorted_newest_eq`).
-/

namespace Catalogue

namespace Timestamp

variable {t t' : Timestamp}

/-- The key of a date is its instant in seconds, rounded once. -/
theorem IsWellFormed.sortKey_eq (h : t.IsWellFormed) :
    sortKey (some t) = .finite (Binary64.roundRatio t.instant 1000000) := by
  have hunit : 1000000 ≤ Binary64.unit := by decide +kernel
  exact Binary64.ofRatio_eq_finite (by decide) hunit h.natAbs_instant_le

/-- An earlier instant does not have the larger key. -/
theorem value_sortKey_le (h : t.IsWellFormed) (h' : t'.IsWellFormed)
    (hle : t.instant ≤ t'.instant) : (sortKey (some t)).value ≤ (sortKey (some t')).value := by
  rw [h.sortKey_eq, h'.sortKey_eq]
  have hround := Binary64.roundRatio_mono (by decide : 0 < 1000000) hle
  simpa [Binary64.value] using hround

/-- An instant of the years in which doubles tell microseconds apart. -/
def IsNear (t : Timestamp) : Prop :=
  t.instant.natAbs ≤ 2 ^ 33 * 1000000

/-- An earlier instant has the smaller key where doubles tell microseconds apart. -/
theorem value_sortKey_lt (h : t.IsWellFormed) (h' : t'.IsWellFormed) (hnear : t.IsNear)
    (hnear' : t'.IsNear) (hlt : t.instant < t'.instant) :
    (sortKey (some t)).value < (sortKey (some t')).value := by
  rw [h.sortKey_eq, h'.sortKey_eq]
  have hround := Binary64.roundRatio_lt (by decide : 0 < 1000000) (by norm_num) hnear hnear' hlt
  simpa [Binary64.value] using hround

/-- In the year 9999 doubles are more than a microsecond apart. -/
example : sortKey (read? "9999-01-01T00:00:00.000001") = sortKey (read? "9999-01-01") := by
  decide +kernel

/-- A missing date has a key below all others. -/
theorem value_sortKey_none_lt (h : t.IsWellFormed) :
    (sortKey none).value < (sortKey (some t)).value := by
  rw [h.sortKey_eq]
  exact WithBot.bot_lt_coe _

end Timestamp

namespace Selection

/-- The first record was added at an earlier instant than the second. -/
def Earlier (a b : Record) : Prop :=
  ∃ t u, a.addedAt = some t ∧ b.addedAt = some u ∧ t.instant < u.instant

/-- A record was added in the years in which doubles tell microseconds apart. -/
def IsNear (r : Record) : Prop :=
  ∃ t, r.addedAt = some t ∧ t.IsNear

variable {a b : Record}

/-- The date of a record is read from a text, so it exists. -/
theorem isWellFormed_of_addedAt {r : Record} {t : Timestamp} (h : r.addedAt = some t) :
    t.IsWellFormed :=
  Timestamp.isWellFormed_of_read? h

/-- A record that was added earlier does not have the larger key. -/
theorem Earlier.value_le (h : Earlier a b) : (dateKey a).value ≤ (dateKey b).value := by
  obtain ⟨t, u, ha, hb, hlt⟩ := h
  rw [dateKey, dateKey, ha, hb]
  exact Timestamp.value_sortKey_le (isWellFormed_of_addedAt ha) (isWellFormed_of_addedAt hb) hlt.le

/-- A record that was added earlier has the smaller key where doubles tell microseconds apart. -/
theorem Earlier.value_lt (h : Earlier a b) (hnear : IsNear a) (hnear' : IsNear b) :
    (dateKey a).value < (dateKey b).value := by
  obtain ⟨t, u, ha, hb, hlt⟩ := h
  obtain ⟨t', ha', ht⟩ := hnear
  obtain ⟨u', hb', hu⟩ := hnear'
  obtain rfl : t = t' := Option.some.inj (ha.symm.trans ha')
  obtain rfl : u = u' := Option.some.inj (hb.symm.trans hb')
  rw [dateKey, dateKey, ha, hb]
  exact Timestamp.value_sortKey_lt (isWellFormed_of_addedAt ha) (isWellFormed_of_addedAt hb) ht hu
    hlt

/-- A list holds the records of another one in the order of a relation of their instants, as far as
their keys tell these apart. -/
structure IsDated (rel : Record → Record → Prop) (rs l : List Record) : Prop where
  /-- Every record occurs as often as before. -/
  perm : l.Perm rs
  /-- Near the beginning of 1970 the instants alone decide which record comes first. -/
  near : ∀ i j (hi : i < l.length) (hj : j < l.length), rel l[i] l[j] →
    IsNear l[i] → IsNear l[j] → i < j
  /-- Only records whose keys are the same double stand the other way round. -/
  opposite : ∀ i j (hi : i < l.length) (hj : j < l.length), rel l[i] l[j] → j < i →
    dateKey l[i] = dateKey l[j]
  /-- The records with one key are the same list as before. -/
  stable : ∀ r, l.filter (dateKey r = dateKey ·) = rs.filter (dateKey r = dateKey ·)

/-- Sorting by date follows every relation of instants that the keys follow. -/
theorem sorted_isDated {order : SortOrder} {rel : Record → Record → Prop} (rs : List Record)
    (hkey : ∀ a b, SameKey order a b ↔ dateKey a = dateKey b)
    (hrel : ∀ a b, rel a b → before order a b = true)
    (hnear : ∀ a b, rel a b → IsNear a → IsNear b → ¬ before order b a = true) :
    IsDated rel rs (sorted rs order) := by
  have hsorted := isStableSort_sorted rs order
  have hfront := List.pairwise_iff_getElem.mp hsorted.ordered
  refine ⟨hsorted.perm, fun i j hi hj hij hneari hnearj => ?_, fun i j hi hj hij hlt => ?_,
    fun r => ?_⟩
  · refine Nat.lt_of_not_le fun hle => hnear _ _ hij hneari hnearj ?_
    rcases hle.eq_or_lt with rfl | hlt
    · exact (sameKey_iff.mp (sameKey_refl order _)).1
    · exact hfront j i hj hi hlt
  · exact (hkey _ _).mp (sameKey_iff.mpr ⟨hrel _ _ hij, hfront j i hj hi hlt⟩)
  · have hstable := hsorted.stable r
    simpa only [hkey] using hstable

/-- The oldest record comes first. -/
theorem isDated_oldest (rs : List Record) : IsDated Earlier rs (sorted rs .dateOldest) :=
  sorted_isDated rs (fun _ _ => Iff.rfl) (fun _ _ h => before_iff.mpr h.value_le)
    fun _ _ h hneara hnearb hle => (h.value_lt hneara hnearb).not_ge (before_iff.mp hle)

/-- The newest record comes first. -/
theorem isDated_newest (rs : List Record) :
    IsDated (fun a b => Earlier b a) rs (sorted rs .dateNewest) :=
  sorted_isDated rs (fun _ _ => Iff.rfl) (fun _ _ h => before_iff.mpr h.value_le)
    fun _ _ h hneara hnearb hle => (h.value_lt hnearb hneara).not_ge (before_iff.mp hle)

/-- A record whose timestamp cannot be read. -/
def isUndated (r : Record) : Bool :=
  r.addedAt.isNone

/-- Records without a date have one key. -/
theorem dateKey_of_isUndated (h : isUndated a = true) : dateKey a = .negInfinite := by
  rw [dateKey, Option.isNone_iff_eq_none.mp h]
  rfl

/-- Only a record without a date has a key that is not above that of a record without one. -/
theorem isUndated_of_value_le (h : isUndated b = true)
    (hle : (dateKey a).value ≤ (dateKey b).value) : isUndated a = true := by
  by_contra hdated
  have hsome : a.addedAt ≠ none := by simpa [isUndated] using hdated
  obtain ⟨t, ht⟩ := Option.ne_none_iff_exists'.mp hsome
  have hlt := Timestamp.value_sortKey_none_lt (isWellFormed_of_addedAt ht)
  rw [dateKey, dateKey, ht, Option.isNone_iff_eq_none.mp h] at hle
  exact hle.not_gt hlt

/-- Sorting by date keeps the order of the records without one. -/
theorem filter_isUndated_sorted (order : SortOrder) (rs : List Record)
    (hkey : ∀ a b, SameKey order a b ↔ dateKey a = dateKey b) :
    (sorted rs order).filter isUndated = rs.filter isUndated := by
  refine filter_mergeSort (before_trans order) (before_total order) rs fun a b ha hb => ?_
  have hsame : SameKey order a b :=
    (hkey a b).mpr ((dateKey_of_isUndated ha).trans (dateKey_of_isUndated hb).symm)
  exact (sameKey_iff.mp hsame).1

/-- The records without a date come first, in the order of the list. -/
theorem sorted_oldest_eq (rs : List Record) :
    sorted rs .dateOldest =
      rs.filter isUndated ++ (sorted rs .dateOldest).filter (!isUndated ·) := by
  have hfront : (sorted rs .dateOldest).Pairwise fun a b =>
      isUndated b = true → isUndated a = true :=
    (isStableSort_sorted rs .dateOldest).ordered.imp fun hab hb =>
      isUndated_of_value_le hb (before_iff.mp hab)
  rw [← filter_isUndated_sorted .dateOldest rs fun _ _ => Iff.rfl]
  exact eq_filter_append_filter hfront

/-- The records without a date come last, in the order of the list. -/
theorem sorted_newest_eq (rs : List Record) :
    sorted rs .dateNewest =
      (sorted rs .dateNewest).filter (!isUndated ·) ++ rs.filter isUndated := by
  have hfront : (sorted rs .dateNewest).Pairwise fun a b =>
      (!isUndated b) = true → (!isUndated a) = true := by
    refine (isStableSort_sorted rs .dateNewest).ordered.imp fun {a b} hab hb => ?_
    have hback : isUndated a = true → isUndated b = true := fun ha =>
      isUndated_of_value_le ha (before_iff.mp hab)
    cases ha : isUndated a
    · rfl
    · rw [hback ha] at hb
      exact hb
  have hsplit := eq_filter_append_filter hfront
  simp only [Bool.not_not] at hsplit
  rwa [filter_isUndated_sorted .dateNewest rs fun _ _ => Iff.rfl] at hsplit

/-- A double is nearest to a quotient: no other one is nearer. -/
def IsNearest (x : Binary64) (num : Int) (den : Nat) : Prop :=
  ∃ q : Int, x = .finite q ∧ Binary64.IsDouble q.natAbs ∧
    ∀ p : Int, Binary64.IsDouble p.natAbs →
      (q * den - num * Binary64.unit).natAbs ≤ (p * den - num * Binary64.unit).natAbs

/-- The key of a record is the double nearest to its instant in seconds. -/
theorem isNearest_dateKey {r : Record} {t : Timestamp} (h : r.addedAt = some t) :
    IsNearest (dateKey r) t.instant 1000000 := by
  refine ⟨Binary64.roundRatio t.instant 1000000, ?_, Binary64.isDouble_roundRatio _ (by decide),
    fun p hp => Binary64.roundRatio_nearest _ (by decide) hp⟩
  rw [dateKey, h]
  exact (isWellFormed_of_addedAt h).sortKey_eq

/-- **Chronological order.**  Sorted from the oldest date on, the records without a date come first
as they stood, then the others: of two that were added near the beginning of 1970 the earlier one
comes first, and anywhere in the years 1 to 9999 a later one comes first only if both have the same
key, and then as they stood.  Sorted from the newest date on, the records without a date come last
as they stood, and the others are in the opposite order, except that records with the same key are
again as they stood.  The key is the double nearest to the instant in seconds.  An instant is the
date and time of day less its offset from UTC, which is zero where none is written. -/
theorem sorted_chronological (rs : List Record) :
    (IsDated Earlier rs (sorted rs .dateOldest) ∧
      ∃ dated, sorted rs .dateOldest = rs.filter isUndated ++ dated ∧
        ∀ r ∈ dated, isUndated r = false) ∧
    (IsDated (fun a b => Earlier b a) rs (sorted rs .dateNewest) ∧
      ∃ dated, sorted rs .dateNewest = dated ++ rs.filter isUndated ∧
        ∀ r ∈ dated, isUndated r = false) ∧
    (∀ r t, r.addedAt = some t → t.IsWellFormed ∧ IsNearest (dateKey r) t.instant 1000000 ∧
      (Timestamp.IsNaive r.timestamp → t.offset = 0)) ∧
    ∀ t u : Timestamp, t.IsWellFormed → u.IsWellFormed →
      (t.instant + t.offset < u.instant + u.offset ↔ t.fields < u.fields) := by
  have hdated : ∀ l : List Record, ∀ r ∈ l.filter (!isUndated ·), isUndated r = false := by
    intro l r hr
    simpa using (List.mem_filter.mp hr).2
  refine ⟨⟨isDated_oldest rs, _, sorted_oldest_eq rs, hdated _⟩,
    ⟨isDated_newest rs, _, sorted_newest_eq rs, hdated _⟩, fun r t h => ?_, fun t u ht hu => ?_⟩
  · exact ⟨isWellFormed_of_addedAt h, isNearest_dateKey h, Timestamp.offset_eq_zero_of_isNaive h⟩
  · exact Timestamp.instant_add_offset_lt_iff ht hu

end Selection

end Catalogue
