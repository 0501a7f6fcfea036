import Mathlib
import Catalogue.RecordSet

/-!
# Identifiers in a record set

A list of records becomes a record set unless an identifier occurs twice, and then it is refused
with the first one that does (`ofList_eq_error_iff`).  So every identifier of a set belongs to one
record only, and this record is found under it (`get?_eq_some_iff`), wherever it stands.
-/

namespace Catalogue

/-- The identifier of the first record, in order, whose identifier occurred earlier. -/
def IsFirstRepeated (id : Int) (rs : List Record) : Prop :=
  ∃ before r after, rs = before ++ r :: after ∧ r.id = id ∧
    (before.map (·.id)).Nodup ∧ id ∈ before.map (·.id)

/-- The identifier of the first record, in order, whose identifier has been seen or occurred
earlier. -/
def IsRepeatedAfter (seen : List Int) (id : Int) (rs : List Record) : Prop :=
  ∃ before r after, rs = before ++ r :: after ∧ r.id = id ∧ (before.map (·.id)).Nodup ∧
    (∀ earlier ∈ before, earlier.id ∉ seen) ∧ (id ∈ seen ∨ id ∈ before.map (·.id))

section

variable {seen : List Int} {first : Record} {rest : List Record} {id : Int}

/-- A record whose identifier has been seen is the first one that repeats. -/
theorem isRepeatedAfter_cons_of_mem (h : first.id ∈ seen) :
    IsRepeatedAfter seen id (first :: rest) ↔ first.id = id := by
  constructor
  · rintro ⟨before, r, after, hsplit, rfl, -, hfresh, -⟩
    cases before with
    | nil => rw [(List.cons.inj hsplit).1]
    | cons earlier before =>
        obtain ⟨rfl, -⟩ := List.cons.inj hsplit
        exact absurd h (hfresh _ List.mem_cons_self)
  · rintro rfl
    exact ⟨[], first, rest, rfl, rfl, by simp, by simp, Or.inl h⟩

/-- What is new behind a record is what is new once the record has been seen. -/
theorem fresh_cons_iff (h : first.id ∉ seen) :
    ((first :: rest).map (·.id)).Nodup ∧ (∀ r ∈ first :: rest, r.id ∉ seen) ↔
      (rest.map (·.id)).Nodup ∧ ∀ r ∈ rest, r.id ∉ first.id :: seen := by
  rw [List.map_cons, List.nodup_cons, List.forall_mem_cons]
  simp only [List.mem_map, List.mem_cons, not_exists, not_and, not_or, h, not_false_eq_true,
    true_and]
  constructor
  · rintro ⟨⟨hnew, hnodup⟩, hfresh⟩
    exact ⟨hnodup, fun r hr => ⟨hnew r hr, hfresh r hr⟩⟩
  · rintro ⟨hnodup, hfresh⟩
    exact ⟨⟨fun r hr => (hfresh r hr).1, hnodup⟩, fun r hr => (hfresh r hr).2⟩

/-- Behind a new record the search goes on with its identifier among those seen. -/
theorem isRepeatedAfter_cons_of_notMem (h : first.id ∉ seen) :
    IsRepeatedAfter seen id (first :: rest) ↔ IsRepeatedAfter (first.id :: seen) id rest := by
  constructor
  · rintro ⟨before, r, after, hsplit, rfl, hnodup, hfresh, hrepeat⟩
    cases before with
    | nil =>
        obtain ⟨rfl, -⟩ := List.cons.inj hsplit
        simp [h] at hrepeat
    | cons earlier before =>
        obtain ⟨rfl, rfl⟩ := List.cons.inj hsplit
        obtain ⟨hnodup, hfresh⟩ := (fresh_cons_iff h).mp ⟨hnodup, hfresh⟩
        refine ⟨before, r, after, rfl, rfl, hnodup, hfresh, ?_⟩
        simpa [or_assoc, or_left_comm] using hrepeat
  · rintro ⟨before, r, after, rfl, rfl, hnodup, hfresh, hrepeat⟩
    obtain ⟨hnodup, hfresh⟩ := (fresh_cons_iff h).mpr ⟨hnodup, hfresh⟩
    refine ⟨first :: before, r, after, rfl, rfl, hnodup, hfresh, ?_⟩
    simpa [or_assoc, or_left_comm] using hrepeat

end

/-- The search finds the first repetition after what has been seen. -/
theorem firstRepeated?_eq_some_iff {seen : List Int} {rs : List Record} {id : Int} :
    firstRepeated? seen rs = some id ↔ IsRepeatedAfter seen id rs := by
  induction rs generalizing seen with
  | nil => simp [firstRepeated?, IsRepeatedAfter]
  | cons first rest ih =>
      rw [firstRepeated?]
      split
      · next hseen => rw [Option.some.injEq, isRepeatedAfter_cons_of_mem hseen]
      · next hfresh => rw [ih, isRepeatedAfter_cons_of_notMem hfresh]

namespace RecordSet

/-- A list is refused with the first identifier that occurred earlier. -/
theorem ofList_eq_error_iff {rs : List Record} {id : Int} :
    ofList rs = .error id ↔ IsFirstRepeated id rs := by
  have hfound : ofList rs = .error id ↔ firstRepeated? [] rs = some id := by
    unfold ofList
    split
    · next h => simp [h]
    · next h => simp [h]
  simp [hfound, firstRepeated?_eq_some_iff, IsRepeatedAfter, IsFirstRepeated]

/-- A list is taken as it is, if at all. -/
theorem records_of_ofList {rs : List Record} {s : RecordSet} (h : ofList rs = .ok s) :
    s.records = rs := by
  unfold ofList at h
  split at h
  · cases h
  · cases h
    rfl

/-- A list is refused exactly if two of its records have the same identifier. -/
theorem exists_ofList_eq_error_iff {rs : List Record} :
    (∃ id, ofList rs = .error id) ↔ ¬ (rs.map (·.id)).Nodup := by
  constructor
  · rintro ⟨id, h⟩ hnodup
    obtain ⟨before, r, after, rfl, rfl, -, hmem⟩ := ofList_eq_error_iff.mp h
    rw [List.map_append, List.nodup_append'] at hnodup
    exact hnodup.2.2 hmem (by simp)
  · intro hnodup
    cases h : ofList rs with
    | error id => exact ⟨id, rfl⟩
    | ok s => exact absurd (records_of_ofList h ▸ s.distinct) hnodup

variable {s : RecordSet}

theorem get?_eq_none_iff {id : Int} : s.get? id = none ↔ ∀ r ∈ s.records, r.id ≠ id := by
  simp [get?]

/-- The record with an identifier is found under it. -/
theorem get?_eq_some_iff {id : Int} {r : Record} :
    s.get? id = some r ↔ r ∈ s.records ∧ r.id = id := by
  constructor
  · intro h
    exact ⟨List.mem_of_find?_eq_some h, by simpa using List.find?_some h⟩
  · rintro ⟨hr, rfl⟩
    cases hfound : s.get? r.id with
    | none => exact absurd rfl (get?_eq_none_iff.mp hfound r hr)
    | some other =>
        have hother : other ∈ s.records := List.mem_of_find?_eq_some hfound
        have hsame : other.id = r.id := by simpa using List.find?_some hfound
        rw [List.inj_on_of_nodup_map s.distinct hother hr hsame]

/-- There is a record at every position, counted from either end. -/
theorem exists_at? {index : Int} (hlow : -s.size ≤ index) (hhigh : index < s.size) :
    ∃ r ∈ s.records, s.at? index = some r := by
  have hsome : ∀ n, n < s.size → ∃ r ∈ s.records, s.records[n]? = some r := fun n hn =>
    ⟨s.records[n], List.getElem_mem hn, List.getElem?_eq_getElem hn⟩
  unfold at?
  split_ifs
  · exact hsome index.toNat (by omega)
  · exact hsome (s.size + index).toNat (by omega)
  · omega

end RecordSet

end Catalogue
