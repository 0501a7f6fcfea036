import Mathlib
import Catalogue.Proofs.Number.Rounding
import Catalogue.Proofs.Ranking
import Catalogue.Statistics

/-!
# What statistics tell

Statistics summarize a list of records: its length, the number of its authors, and four tables of
what occurs most often (`Statistics.ofRecords_isSummaryOf`).  They exist for every list.  All
weights of a tag cloud are relative to the count of its first tag, which is positive and the
greatest one; so no quotient exceeds one, and its weight is a finite double
(`Weight.ofCount_eq_ok`).
-/

namespace Catalogue

namespace Weight

open Binary64 (unit bound roundQuotient)

/-- The quotient of a count and a greater or equal one is at most one. -/
theorem roundQuotient_le_unit {count first : Nat} (h : count ≤ first) (hfirst : 0 < first) :
    roundQuotient (count * unit) first ≤ unit := by
  calc roundQuotient (count * unit) first ≤ 1 * unit :=
        Binary64.roundQuotient_le_mul_unit hfirst (by decide) (by rwa [Nat.one_mul])
    _ = unit := Nat.one_mul unit

/-- The quotient of a count and a greater or equal one is finite. -/
theorem quotient_eq_finite {count first : Nat} (h : count ≤ first) (hfirst : 0 < first) :
    Binary64.quotient count first = .finite (roundQuotient (count * unit) first) := by
  have hsmall : ¬ bound ≤ roundQuotient (count * unit) first :=
    Nat.not_le.mpr ((roundQuotient_le_unit h hfirst).trans_lt Binary64.unit_lt_bound)
  have hmagnitude : ((count : Int) * unit).natAbs = count * unit := by
    rw [← Int.natCast_mul, Int.natAbs_natCast]
  have hsign : decide ((count : Int) * unit < 0) = false := by
    rw [← Int.natCast_mul]
    exact decide_eq_false (Int.not_lt.mpr (Int.natCast_nonneg _))
  rw [Binary64.quotient, if_neg (by omega), Int.natAbs_natCast, Binary64.ofRatio,
    Binary64.ofQuanta, hmagnitude, Binary64.ofMagnitude, if_neg hsmall, hsign]
  rfl

/-- **Weights.**  A count has a weight relative to a positive count that is at least as great. -/
theorem ofCount_eq_ok {count first : Nat} (h : count ≤ first) (hfirst : 0 < first) :
    ofCount count first = .ok (least.add ((Binary64.quotient count first).mul range)) := by
  have hne : ¬ (first : Int) = 0 := by omega
  have hquanta : (Binary64.quotient count first).quanta? =
      some (roundQuotient (count * unit) first : Int) := by
    rw [quotient_eq_finite h hfirst, Binary64.quanta?]
  rw [ofCount, if_neg hne]
  dsimp only
  rw [hquanta]

end Weight

/-- The name and the count of a tag. -/
def WeightedTag.entry (tag : WeightedTag) : String × Int :=
  (tag.name, tag.count)

/-- The entries of a tally with integers as counts. -/
def Tally.entries (tally : Tally) : List (String × Int) :=
  tally.map fun row => (row.1, (row.2 : Int))

namespace Weight

/-- Entries whose counts have weights become tags with these weights. -/
theorem relativeTo_eq_ok {first : Int} {entries : List (String × Int)}
    (h : ∀ entry ∈ entries, ∃ weight, ofCount entry.2 first = .ok weight) :
    ∃ tags, relativeTo first entries = .ok tags ∧ tags.map WeightedTag.entry = entries ∧
      ∀ tag ∈ tags, ofCount tag.count first = .ok tag.weight := by
  induction entries with
  | nil => exact ⟨[], rfl, rfl, by simp⟩
  | cons entry entries ih =>
      obtain ⟨⟨weight, hweight⟩, hentries⟩ := List.forall_mem_cons.mp h
      obtain ⟨tags, htags, hnames, hweights⟩ := ih hentries
      refine ⟨⟨entry.1, entry.2, weight⟩ :: tags, ?_, ?_, List.forall_mem_cons.mpr
        ⟨hweight, hweights⟩⟩
      · rw [relativeTo, hweight, htags]
        rfl
      · rw [List.map_cons, hnames, WeightedTag.entry]

/-- Tags have the weights of their counts relative to the first one, which is positive. -/
def AreRelative (tags : List WeightedTag) : Prop :=
  ∀ first ∈ tags.head?, 0 < first.count ∧
    ∀ tag ∈ tags, ofCount tag.count first.count = .ok tag.weight

/-- The rows of a table of the most frequent names have weights. -/
theorem ofTags_of_isTopOf {table : Tally} {limit : Nat} {counted : List String}
    (h : table.IsTopOf limit counted) :
    ∃ tags, ofTags table.entries = .ok tags ∧ tags.map WeightedTag.entry = table.entries ∧
      AreRelative tags := by
  cases table with
  | nil => exact ⟨[], rfl, rfl, by simp [AreRelative]⟩
  | cons first rest =>
      obtain ⟨hcounted, hfirst⟩ := h.counts first List.mem_cons_self
      have hpos : 0 < first.2 := hfirst ▸ List.count_pos_iff.mpr hcounted
      -- No row has a greater count than the first one, since the rows are ranked.
      have hgreatest : ∀ row ∈ first :: rest, row.2 ≤ first.2 := by
        intro row hrow
        rw [(h.counts row hrow).2]
        exact h.count_le (h.counts row hrow).1
      have hweights : ∀ entry ∈ Tally.entries (first :: rest),
          ∃ weight, ofCount entry.2 first.2 = .ok weight := by
        intro entry hentry
        obtain ⟨row, hrow, rfl⟩ := List.mem_map.mp hentry
        exact ⟨_, ofCount_eq_ok (hgreatest row hrow) hpos⟩
      obtain ⟨tags, htags, hentries, hrelative⟩ := relativeTo_eq_ok hweights
      refine ⟨tags, htags, hentries, fun tag htag => ?_⟩
      have hhead : tag.entry = (first.1, (first.2 : Int)) := by
        have heads := congrArg List.head? hentries
        rw [List.head?_map, htag] at heads
        exact Option.some.inj heads
      have hcount : tag.count = first.2 := congrArg Prod.snd hhead
      rw [hcount]
      exact ⟨by omega, hrelative⟩

end Weight

namespace Statistics

/-- The statistics of a list of records. -/
structure IsSummaryOf (s : Statistics) (rs : List Record) : Prop where
  totalBooks_eq : s.totalBooks = rs.length
  /-- An author is counted once, however many books have that name among their authors. -/
  uniqueAuthors_eq : s.uniqueAuthors = (rs.flatMap (·.authorList)).toFinset.card
  topLanguages : s.topLanguages.IsTopOf 5 (rs.flatMap (·.languageList))
  topFormats : s.topFormats.IsTopOf 5 (rs.flatMap (·.normalFormats))
  topAuthors : s.topAuthors.IsTopOf 10 (rs.flatMap (·.authorList))
  topTags : ∃ table : Tally, table.IsTopOf 60 (rs.flatMap (·.cleanTags)) ∧
    s.topTags.map WeightedTag.entry = table.entries
  weights : Weight.AreRelative s.topTags

/-- How the statistics of records come from four tallies. -/
theorem exists_ofRecords (rs : List Record) :
    ∃ tags, ofRecords rs = .ok
        { totalBooks := rs.length
          uniqueAuthors := (Tally.ofList (rs.flatMap (·.authorList))).length
          topLanguages := (Tally.ofList (rs.flatMap (·.languageList))).top 5
          topFormats := (Tally.ofList (rs.flatMap (·.normalFormats))).top 5
          topAuthors := (Tally.ofList (rs.flatMap (·.authorList))).top 10
          topTags := tags } ∧
      tags.map WeightedTag.entry = ((Tally.ofList (rs.flatMap (·.cleanTags))).top 60).entries ∧
      Weight.AreRelative tags := by
  obtain ⟨tags, htags, hentries, hrelative⟩ :=
    Weight.ofTags_of_isTopOf (Tally.isTopOf_top (rs.flatMap (·.cleanTags)) 60)
  refine ⟨tags, ?_, hentries, hrelative⟩
  rw [ofRecords]
  exact congrArg (Except.map _) htags

end Statistics

end Catalogue
