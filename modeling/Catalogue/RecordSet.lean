import Catalogue.Record

/-!
# Record sets

The records of one library, in order, no two of them with the same identifier.  A record set is
built from a list of records, which fails at the first record whose identifier was used before.
-/

namespace Catalogue

/-- The identifier of the first record that repeats an earlier one, or one already seen. -/
def firstRepeated? (seen : List Int) : List Record → Option Int
  | [] => none
  | r :: rest => if r.id ∈ seen then some r.id else firstRepeated? (r.id :: seen) rest

/-- Where no id is found to repeat, all ids are distinct and none is among those seen before. -/
theorem nodup_of_firstRepeated?_eq_none {seen : List Int} {rs : List Record}
    (h : firstRepeated? seen rs = none) :
    (rs.map (·.id)).Nodup ∧ ∀ r ∈ rs, r.id ∉ seen := by
  induction rs generalizing seen with
  | nil => simp
  | cons r rest ih =>
    rw [firstRepeated?] at h
    split at h
    · simp at h
    · next fresh =>
      obtain ⟨distinct, unseen⟩ := ih h
      constructor
      · rw [List.map_cons, List.nodup_cons]
        refine ⟨fun repeated => ?_, distinct⟩
        obtain ⟨other, member, same⟩ := List.mem_map.1 repeated
        exact unseen other member (by simp [same])
      · intro other member
        cases List.mem_cons.1 member with
        | inl same => rw [same]; exact fresh
        | inr member =>
          intro repeated
          exact unseen other member (List.mem_cons_of_mem _ repeated)

/-- Why there is no record at a position. -/
inductive PositionError where
  | outOfRange
  /-- The position has more than 64 bits. -/
  | tooLarge
  deriving DecidableEq, Repr

/-- What went wrong, in words. -/
def PositionError.message : PositionError → String
  | .outOfRange => "tuple index out of range"
  | .tooLarge => "cannot fit 'int' into an index-sized integer"

/-- The least number that is too large for a position. -/
def positionBound : Int := 0x8000000000000000

/-- The records of one library. -/
structure RecordSet where
  records : List Record
  distinct : (records.map (·.id)).Nodup

namespace RecordSet

/-- The library without records. -/
def empty : RecordSet := ⟨[], List.nodup_nil⟩

/-- The set of the given records, or the identifier that is used twice. -/
def ofList (rs : List Record) : Except Int RecordSet :=
  match h : firstRepeated? [] rs with
  | some id => .error id
  | none => .ok ⟨rs, (nodup_of_firstRepeated?_eq_none h).1⟩

/-- The number of records. -/
def size (s : RecordSet) : Nat :=
  s.records.length

/-- The record with an identifier. -/
def get? (s : RecordSet) (id : Int) : Option Record :=
  s.records.find? (·.id = id)

/-- The record at a position; negative positions count from the end. -/
def at? (s : RecordSet) (index : Int) : Option Record :=
  if 0 ≤ index then
    s.records[index.toNat]?
  else if 0 ≤ s.size + index then
    s.records[(s.size + index).toNat]?
  else
    none

/-- The record at a position, or the reason why there is none. -/
def recordAt (s : RecordSet) (index : Int) : Except PositionError Record :=
  match s.at? index with
  | some r => .ok r
  | none =>
    if -positionBound ≤ index ∧ index < positionBound then .error .outOfRange
    else .error .tooLarge

end RecordSet

end Catalogue
