import Catalogue.Proofs.Record.Import
import Catalogue.Proofs.RecordSet

/-!
# Which documents are libraries

A document is a library when it holds an array of books in one of two shapes, the first book has a
title, every book describes a record, and no two give the same identifier (`Library.IsLibrary`).
Exactly these documents are loaded, with the records that their books describe; from every other
one a rejection says what is wrong with it, and where (`Library.ofJson_isLibrary`).
-/

namespace Catalogue

/-- The first identifier that occurred earlier is a repeated one. -/
theorem IsFirstRepeated.duplicate {rs : List Record} {id : Int} (h : IsFirstRepeated id rs) :
    List.Duplicate id (rs.map (·.id)) := by
  obtain ⟨before, r, after, rfl, rfl, -, hearlier⟩ := h
  rw [List.map_append, List.map_cons, List.duplicate_iff_sublist]
  exact (List.singleton_sublist.mpr hearlier).append
    (List.singleton_sublist.mpr List.mem_cons_self)

/-- Records are a library unless one has an identifier that an earlier one has. -/
theorem RecordSet.ofList_cases (rs : List Record) :
    (∃ set, RecordSet.ofList rs = .ok set ∧ set.records = rs ∧ (rs.map (·.id)).Nodup) ∨
      ∃ id, RecordSet.ofList rs = .error id ∧ List.Duplicate id (rs.map (·.id)) := by
  cases hset : RecordSet.ofList rs with
  | ok set =>
      have hrecords := RecordSet.records_of_ofList hset
      exact Or.inl ⟨set, rfl, hrecords, hrecords ▸ set.distinct⟩
  | error id => exact Or.inr ⟨id, rfl, (RecordSet.ofList_eq_error_iff.mp hset).duplicate⟩

namespace Library

/-- A book describes a record. -/
def IsBook (v : Json) : Prop :=
  ∃ fields, v = .obj fields ∧ Fields.DescribeRecord fields

/-- A record is the one that a book describes. -/
def IsRecordOf (r : Record) (v : Json) : Prop :=
  ∃ fields, v = .obj fields ∧ r.IsGivenBy fields

/-- Books that all describe records give these records, in order. -/
theorem ofItems_of_isBook {books : List Json} (h : ∀ book ∈ books, IsBook book) (index : Nat) :
    ∃ rs, Record.ofItems index (books.map dropNulls) = .ok rs ∧
      List.Forall₂ IsRecordOf rs books := by
  induction books generalizing index with
  | nil => exact ⟨[], rfl, .nil⟩
  | cons book books ih =>
      obtain ⟨⟨fields, rfl, hdescribe⟩, hbooks⟩ := List.forall_mem_cons.mp h
      obtain ⟨r, hrecord, hgiven⟩ := Record.ofJsonAt_of_describeRecord hdescribe [.item index]
      obtain ⟨rs, hrecords, hall⟩ := ih hbooks (index + 1)
      refine ⟨r :: rs, ?_, .cons ⟨fields, rfl, hgiven⟩ hall⟩
      rw [List.map_cons, Record.ofItems, hrecord, hrecords]
      rfl

/-- Where some book describes no record, one of them has a fault. -/
theorem ofItems_error {books : List Json} (h : ¬ ∀ book ∈ books, IsBook book) (index : Nat) :
    ∃ fault, Record.ofItems index (books.map dropNulls) = .error fault ∧
      ∃ i book, books[i]? = some book ∧ fault.IsOf [.item (index + i)] book := by
  induction books generalizing index with
  | nil => exact absurd (by simp) h
  | cons book books ih =>
      by_cases hbook : IsBook book
      · have hrest := fun hbooks => h (List.forall_mem_cons.mpr ⟨hbook, hbooks⟩)
        obtain ⟨fields, rfl, hdescribe⟩ := hbook
        obtain ⟨r, hrecord, -⟩ := Record.ofJsonAt_of_describeRecord hdescribe [.item index]
        obtain ⟨fault, herror, i, other, hother, hof⟩ := ih hrest (index + 1)
        refine ⟨fault, ?_, i + 1, other, hother, ?_⟩
        · rw [List.map_cons, Record.ofItems, hrecord, herror]
          rfl
        · rwa [show index + (i + 1) = index + 1 + i by omega]
      · obtain ⟨fault, herror, hof⟩ := Record.ofJsonAt_error hbook [.item index]
        refine ⟨fault, ?_, 0, book, rfl, hof⟩
        rw [List.map_cons, Record.ofItems, herror]

/-- An array of books is that of a document. -/
def HasBooks (v : Json) (books : List Json) : Prop :=
  v = .arr books ∨ ∃ fields, v = .obj fields ∧ Fields.get? "books" fields = some (.arr books)

theorem books?_eq_some_iff {v : Json} {books : List Json} :
    books? v = some books ↔ HasBooks v books := by
  cases v with
  | arr items => simp [books?, HasBooks]
  | obj fields =>
      simp only [books?, HasBooks, reduceCtorEq, Json.obj.injEq, exists_eq_left', false_or]
      split
      · next items hitems => simp [hitems]
      · next hother => simp_all
  | _ => simp [books?, HasBooks]

/-- A book has a title that is not empty. -/
def HasTitle (v : Json) : Prop :=
  ∃ fields title, v = .obj fields ∧ Fields.get? "title" fields = some (.str title) ∧ title ≠ ""

theorem isTitled_iff {v : Json} : isTitled v = true ↔ HasTitle v := by
  cases v with
  | obj fields =>
      simp only [isTitled, HasTitle, Json.obj.injEq]
      split
      · next s hs => simp [hs]
      · next hother => simp_all
  | _ => simp [isTitled, HasTitle]

/-- The identifier that a book gives. -/
def idOf : Json → Option Json
  | .obj fields => Fields.given? "id" fields
  | _ => none

/-- A book gives the identifier of its record. -/
theorem IsRecordOf.idOf_eq {r : Record} {v : Json} (h : IsRecordOf r v) :
    idOf v = some (.int r.id) := by
  obtain ⟨fields, rfl, hgiven⟩ := h
  have hid := hgiven ⟨"id", .integer, none⟩ (by simp [Record.rules])
  rw [Option.or_none] at hid
  exact hid.symm

/-- Books give the identifiers of their records. -/
theorem map_idOf_eq {rs : List Record} {books : List Json} (h : List.Forall₂ IsRecordOf rs books) :
    books.map idOf = (rs.map (·.id)).map fun id => some (.int id) := by
  induction h with
  | nil => rfl
  | cons hbook _ ih => rw [List.map_cons, List.map_cons, List.map_cons, hbook.idOf_eq, ih]

/-- Different identifiers are different values. -/
theorem int_injective : Function.Injective fun id : Int => some (Json.int id) := by
  intro id other h
  simpa using h

/-- A document describes records by its books. -/
structure DescribesRecords (v : Json) (books : List Json) : Prop where
  /-- It holds the books in one of two shapes. -/
  hasBooks : HasBooks v books
  /-- The first book has a title. -/
  titled : ∀ first ∈ books.head?, HasTitle first
  /-- Every book describes a record. -/
  described : ∀ book ∈ books, IsBook book

/-- A document is a library with the books. -/
structure IsLibrary (v : Json) (books : List Json) : Prop extends DescribesRecords v books where
  /-- No two books give the same identifier. -/
  distinct : (books.map idOf).Nodup

/-- What a reason says about a document. -/
def Reason.IsOf (v : Json) : Reason → Prop
  | .wrongShape => ∀ books, ¬ HasBooks v books
  | .untitled => ∃ first rest, HasBooks v (first :: rest) ∧ ¬ HasTitle first
  | .badRecord fault => ∃ books, HasBooks v books ∧ fault.IsOf [] (.arr books)
  | .repeatedId id => ∃ books, HasBooks v books ∧
      List.Duplicate (some (.int id)) (books.map idOf)
  | .unreadable _ => False
  | .malformed _ => False

/-- The books of a document are those that it holds. -/
theorem HasBooks.unique {v : Json} {books other : List Json} (h : HasBooks v books)
    (hother : HasBooks v other) : books = other :=
  Option.some.inj ((books?_eq_some_iff.mpr h).symm.trans (books?_eq_some_iff.mpr hother))

/-- The records that a document describes, in the order of its books. -/
theorem recordsOfJson_of_describesRecords {v : Json} {books : List Json}
    (h : DescribesRecords v books) :
    ∃ rs, recordsOfJson v = .ok rs ∧ List.Forall₂ IsRecordOf rs books := by
  rw [recordsOfJson, books?_eq_some_iff.mpr h.hasBooks]
  cases books with
  | nil => exact ⟨[], rfl, .nil⟩
  | cons first rest =>
      obtain ⟨rs, hrecords, hall⟩ := ofItems_of_isBook h.described 0
      refine ⟨rs, ?_, hall⟩
      simp only [isTitled_iff.mpr (h.titled first rfl), if_true, hrecords]
      rfl

/-- From every other document a reason says what is wrong with it. -/
theorem recordsOfJson_error {v : Json} (h : ∀ books, ¬ DescribesRecords v books) :
    ∃ reason, recordsOfJson v = .error reason ∧ reason.IsOf v := by
  rw [recordsOfJson]
  cases hfound : books? v with
  | none =>
      refine ⟨.wrongShape, rfl, fun books hbooks => ?_⟩
      rw [books?_eq_some_iff.mpr hbooks] at hfound
      cases hfound
  | some books =>
      have hbooks := books?_eq_some_iff.mp hfound
      cases books with
      | nil => exact absurd ⟨hbooks, by simp, by simp⟩ (h [])
      | cons first rest =>
          by_cases htitle : isTitled first = true
          · have hbook : ¬ ∀ book ∈ first :: rest, IsBook book := fun hbook =>
              h _ ⟨hbooks, by simpa using isTitled_iff.mp htitle, hbook⟩
            obtain ⟨fault, herror, i, book, hitem, hof⟩ := ofItems_error hbook 0
            have hpart : (Json.arr (first :: rest)).HasPart (.item i) book := hitem
            rw [Nat.zero_add, ← List.nil_append [_]] at hof
            refine ⟨.badRecord fault, ?_, first :: rest, hbooks, hof.of_part hpart⟩
            simp only [htitle, if_true, herror]
            rfl
          · refine ⟨.untitled, ?_, first, rest, hbooks, fun hhas => htitle (isTitled_iff.mpr hhas)⟩
            simp only [htitle]
            rfl

/-- Records come from a document that describes them. -/
theorem describesRecords_of_recordsOfJson {v : Json} {rs : List Record}
    (h : recordsOfJson v = .ok rs) :
    ∃ books, DescribesRecords v books ∧ List.Forall₂ IsRecordOf rs books := by
  by_cases hdescribes : ∃ books, DescribesRecords v books
  · obtain ⟨books, hdescribes⟩ := hdescribes
    obtain ⟨other, hother, hall⟩ := recordsOfJson_of_describesRecords hdescribes
    obtain rfl : other = rs := Except.ok.inj (hother.symm.trans h)
    exact ⟨books, hdescribes, hall⟩
  · obtain ⟨reason, herror, -⟩ := recordsOfJson_error (not_exists.mp hdescribes)
    rw [herror] at h
    cases h

/-- What is loaded from a document: the records that the books of a library describe, or a reason
that holds of it. -/
theorem ofJson_cases (source : Option String) (v : Json) :
    (∃ set books, ofJson source v = .ok set ∧ IsLibrary v books ∧
        List.Forall₂ IsRecordOf set.records books) ∨
      ∃ rejection, ofJson source v = .error rejection ∧ rejection.reason.IsOf v ∧
        ∀ books, ¬ IsLibrary v books := by
  by_cases hrecords : ∃ books, DescribesRecords v books
  · obtain ⟨books, hdescribes⟩ := hrecords
    obtain ⟨rs, hrs, hall⟩ := recordsOfJson_of_describesRecords hdescribes
    have hids := map_idOf_eq hall
    rcases RecordSet.ofList_cases rs with ⟨set, hset, rfl, hdistinct⟩ | ⟨id, hset, hduplicate⟩
    · refine Or.inl ⟨set, books, ?_, ⟨hdescribes, ?_⟩, hall⟩
      · simp only [ofJson, hrs, ofRecords, hset]
        rfl
      · rw [hids]
        exact hdistinct.map int_injective
    · have hrepeated : List.Duplicate (some (Json.int id)) (books.map idOf) := by
        rw [hids, List.duplicate_iff_sublist]
        exact (List.duplicate_iff_sublist.mp hduplicate).map fun id => some (Json.int id)
      have hbooks := hdescribes.hasBooks
      refine Or.inr ⟨⟨none, .repeatedId id⟩, ?_, ⟨books, hbooks, hrepeated⟩, fun other hother => ?_⟩
      · simp only [ofJson, hrs, ofRecords, hset]
        rfl
      · rw [hbooks.unique hother.hasBooks] at hrepeated
        exact hrepeated.not_nodup hother.distinct
  · obtain ⟨reason, herror, hof⟩ := recordsOfJson_error (not_exists.mp hrecords)
    refine Or.inr ⟨⟨source, reason⟩, ?_, hof, fun books hlibrary =>
      hrecords ⟨books, hlibrary.toDescribesRecords⟩⟩
    rw [ofJson, herror]

/-- Null counts as absent, and so the publisher is the default one. -/
example : (ofJson none (.obj [("books", .arr [.obj [("publisher", .null), ("title", .str "Emma"),
    ("id", .int 7), ("rating", .int 5)]])])).toOption.map (·.records) =
      some [{ id := 7, title := "Emma" }] := rfl

end Library

end Catalogue
