import Catalogue.Library
import Catalogue.Proofs.RecordSet

/-!
# The library that is held

A program holds one record set.  It may read a document or a file, convert a JSON value, or
construct a set from records; each time the new set takes the place of the old one, unless it is
refused.  So after any number of such steps the set is the one of the last step that was not refused
(`run_cases`): the records of that step, all of them, with different identifiers.  Whatever led to
it, its records are found by their identifiers exactly where they stand (`held_records`).
-/

namespace Catalogue.Library

/-- A way to come to a record set. -/
inductive Step where
  /-- Read a document. -/
  | decode (decoder : Json.Decoder) (source : Option String) (bytes : List UInt8)
  /-- Convert a JSON value. -/
  | convert (source : Option String) (v : Json)
  /-- Read a file. -/
  | load (decoder : Json.Decoder) (files : FileSystem) (path : FilePath)
  /-- Construct a set from records. -/
  | construct (rs : List Record)

namespace Step

/-- The records of a step, repeated identifiers included. -/
def records : Step → Except LoadError (List Record)
  | .decode decoder source bytes => readRecords decoder source bytes
  | .convert source v => (recordsOfJson v).mapError fun reason => .rejected ⟨source, reason⟩
  | .load decoder files path => readFile decoder files path
  | .construct rs => .ok rs

/-- The record set of a step. -/
def result : Step → Except LoadError RecordSet
  | .decode decoder source bytes => Library.decode decoder source bytes
  | .convert source v => (ofJson source v).mapError .rejected
  | .load decoder files path => Library.load decoder files path
  | .construct rs => (ofRecords rs).mapError .rejected

/-- A step gives no record set. -/
def Fails (step : Step) : Prop :=
  ∃ e, step.result = .error e

/-- Every step makes a record set out of its records. -/
theorem result_eq (step : Step) :
    step.result =
      match step.records with
      | .error e => .error e
      | .ok rs => (ofRecords rs).mapError .rejected := by
  cases step with
  | decode decoder source bytes => rfl
  | load decoder files path => rfl
  | construct rs => rfl
  | convert source v =>
      simp only [result, records, ofJson]
      cases recordsOfJson v <;> rfl

/-- The record set of a step has all records of the step. -/
theorem records_of_result {step : Step} {s : RecordSet} (h : step.result = .ok s) :
    step.records = .ok s.records := by
  rw [result_eq] at h
  split at h
  · cases h
  · next rs hrecords =>
    rw [hrecords]
    cases hset : RecordSet.ofList rs with
    | error id => simp [ofRecords, hset, Except.mapError] at h
    | ok made =>
        simp only [ofRecords, hset, Except.mapError, Except.ok.injEq] at h
        rw [← h, RecordSet.records_of_ofList hset]

end Step

/-- The record set that is held after a step. -/
def hold (s : RecordSet) (step : Step) : RecordSet :=
  match step.result with
  | .ok made => made
  | .error _ => s

/-- The record set that is held after some steps. -/
def run (s : RecordSet) (steps : List Step) : RecordSet :=
  steps.foldl hold s

theorem run_concat (s : RecordSet) (steps : List Step) (step : Step) :
    run s (steps ++ [step]) = hold (run s steps) step :=
  List.foldl_concat ..

/-- **What a step does.**  It fails and leaves the set, or it gives the new set, which has all its
records. -/
theorem hold_cases (s : RecordSet) (step : Step) :
    step.Fails ∧ hold s step = s ∨
      step.result = .ok (hold s step) ∧ step.records = .ok (hold s step).records := by
  cases hresult : step.result with
  | error e => exact Or.inl ⟨⟨e, hresult⟩, by rw [hold, hresult]⟩
  | ok made =>
      have hheld : hold s step = made := by rw [hold, hresult]
      exact Or.inr ⟨by rw [hheld], hheld ▸ Step.records_of_result hresult⟩

/-- A record set was given by the last step that did not fail and has all its records, or it is the
first one. -/
def IsFromLast (s : RecordSet) (steps : List Step) (held : RecordSet) : Prop :=
  held = s ∧ (∀ step ∈ steps, step.Fails) ∨
    ∃ before step after, steps = before ++ step :: after ∧ step.result = .ok held ∧
      step.records = .ok held.records ∧ ∀ later ∈ after, later.Fails

/-- **What a run holds.**  After any steps it is what the last one that succeeded has read, or what
it was at the beginning. -/
theorem run_cases (s : RecordSet) (steps : List Step) : IsFromLast s steps (run s steps) := by
  induction steps using List.reverseRecOn with
  | nil => exact Or.inl ⟨rfl, by simp⟩
  | append_singleton steps step ih =>
      rw [run_concat]
      rcases hold_cases (run s steps) step with ⟨hfails, hkept⟩ | ⟨hnew, hrecords⟩
      · rw [hkept]
        rcases ih with ⟨hfirst, hall⟩ | ⟨before, last, after, rfl, hgiven, hrecords, hafter⟩
        · refine Or.inl ⟨hfirst, fun other hother => ?_⟩
          rcases List.mem_append.mp hother with hearlier | hlast
          · exact hall other hearlier
          · exact List.mem_singleton.mp hlast ▸ hfails
        · refine Or.inr ⟨before, last, after ++ [step], by simp, hgiven, hrecords,
            fun other hother => ?_⟩
          rcases List.mem_append.mp hother with hlater | hlast
          · exact hafter other hlater
          · exact List.mem_singleton.mp hlast ▸ hfails
      · exact Or.inr ⟨steps, step, [], rfl, hnew, hrecords, by simp⟩

/-- The records of a set are found by position and by identifier alike. -/
structure IsIndexed (s : RecordSet) : Prop where
  /-- No two records have the same identifier. -/
  distinct : (s.records.map (·.id)).Nodup
  /-- The record at a position, counted from either end, is found by its identifier. -/
  found : ∀ index : Int, -s.size ≤ index → index < s.size →
    ∃ r, s.at? index = some r ∧ s.get? r.id = some r
  /-- Nothing is found by an identifier that no record has. -/
  absent : ∀ id, s.get? id = none ↔ ∀ r ∈ s.records, r.id ≠ id

/-- In every record set a record is found by its identifier, and by its place in the list. -/
theorem isIndexed (s : RecordSet) : IsIndexed s where
  distinct := s.distinct
  found index hlow hhigh := by
    obtain ⟨r, hr, hat⟩ := RecordSet.exists_at? hlow hhigh
    exact ⟨r, hat, RecordSet.get?_eq_some_iff.mpr ⟨hr, rfl⟩⟩
  absent _ := RecordSet.get?_eq_none_iff

/-- A list of records is refused with the first identifier that occurred earlier. -/
theorem ofRecords_eq_error_iff {rs : List Record} {r : Rejection} :
    ofRecords rs = .error r ↔ ∃ id, r = ⟨none, .repeatedId id⟩ ∧ IsFirstRepeated id rs := by
  simp only [← RecordSet.ofList_eq_error_iff, ofRecords]
  cases RecordSet.ofList rs with
  | ok s => simp [Except.mapError]
  | error id => simp [Except.mapError, eq_comm]

end Catalogue.Library
