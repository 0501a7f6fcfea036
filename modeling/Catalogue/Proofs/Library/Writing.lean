import Catalogue.Proofs.Json.Writing
import Catalogue.Proofs.Library.Source

/-!
# Libraries that can be written

The identifier of a record is its only integer.  Records that are read from a document have theirs
from there, and what is read from a document can be written.  So the records of a library that is
loaded from a file can be written (`Library.load_isWritable`).
-/

namespace Catalogue

theorem Fields.AreWritable.get? {fields : Fields} (h : fields.AreWritable) {name : String}
    {v : Json} (hv : fields.get? name = some v) : v.isWritable = true := by
  obtain ⟨before, after, hfields, -⟩ := List.lookup_eq_some_iff.mp hv
  exact h (name, v) (by simp [hfields])

/-- Fields that can be written give values that can be written. -/
theorem Fields.AreWritable.given? {fields : Fields} (h : fields.AreWritable) {name : String}
    {v : Json} (hv : fields.given? name = some v) : v.isWritable = true := by
  have hgiven : Fields.AreWritable (fields.filter fun field => !field.2.isNull).reverse := by
    intro field hfield
    exact h field (List.mem_of_mem_filter (List.mem_reverse.mp hfield))
  exact hgiven.get? hv

/-- Only the identifier of a record can be too long. -/
theorem Record.isWritable_toJson (r : Record) : r.toJson.isWritable = Text.isWritable r.id := by
  have htexts : ∀ ss : List String, Json.areWritable (ss.map .str) = true := by
    intro ss
    induction ss with
    | nil => rfl
    | cons s ss ih => exact ih
  simp [toJson, Json.isWritable, Json.haveWritable, htexts]

namespace Library

/-- The books of a document that can be written can be written. -/
theorem HasBooks.isWritable {v : Json} {books : List Json} (h : HasBooks v books)
    (hv : v.isWritable = true) : ∀ book ∈ books, book.isWritable = true := by
  rcases h with rfl | ⟨fields, rfl, hbooks⟩
  · exact (Json.isWritable_arr _).mp hv
  · exact (Json.isWritable_arr _).mp (((Json.isWritable_obj _).mp hv).get? hbooks)

/-- A book that can be written describes a record that can be written. -/
theorem IsRecordOf.isWritable {r : Record} {book : Json} (h : IsRecordOf r book)
    (hbook : book.isWritable = true) : r.toJson.isWritable = true := by
  have hid := h.idOf_eq
  obtain ⟨fields, rfl, -⟩ := h
  have hvalue : (Json.int r.id).isWritable = true :=
    ((Json.isWritable_obj _).mp hbook).given? hid
  rwa [Json.isWritable, ← Record.isWritable_toJson] at hvalue

/-- Records of a document that can be written can be written. -/
theorem recordsOfJson_isWritable {v : Json} {rs : List Record} (hv : v.isWritable = true)
    (h : recordsOfJson v = .ok rs) : ∀ r ∈ rs, r.toJson.isWritable = true := by
  obtain ⟨books, hdescribes, hall⟩ := describesRecords_of_recordsOfJson h
  have hbooks := hdescribes.hasBooks.isWritable hv
  clear h hdescribes
  induction hall with
  | nil => exact List.forall_mem_nil _
  | cons hrecord _ ih =>
      obtain ⟨hbook, hbooks⟩ := List.forall_mem_cons.mp hbooks
      exact List.forall_mem_cons.mpr ⟨hrecord.isWritable hbook, ih hbooks⟩

/-- **The records of a file** can be written. -/
theorem load_isWritable {decoder : Json.Decoder} {files : FileSystem} {path : FilePath}
    {set : RecordSet} (h : load decoder files path = .ok set) :
    ∀ r ∈ set.records, r.toJson.isWritable = true := by
  unfold load at h
  split at h
  · cases h
  · next rs hfile =>
      have hstep : (Step.load decoder files path).records = .ok rs := hfile
      obtain ⟨v, ⟨bytes, -, hread⟩, hrecords⟩ := (Step.records_eq_ok_iff rfl).mp hstep
      have hset := RecordSet.records_of_ofList (mapError_eq_ok_iff.mp (mapError_eq_ok_iff.mp h))
      rw [hset]
      exact recordsOfJson_isWritable (Json.read_isWritable hread) hrecords

end Library

end Catalogue
