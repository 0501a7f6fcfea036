import Catalogue.Proofs.Library.Loading

/-!
# Exported records

A record is written as a JSON object with all of its fields, empty ones included.  These fields
describe a record (`Record.describeRecord_fields`), and the one that they give is the record itself
(`Record.isGivenBy_fields`), so every exported record is read back as it was.  A whole library is
therefore loaded as it was, unless its first record has no title (`Library.ofJson_eq_ok_iff`).
-/

namespace Catalogue

namespace Record

/-- The fields that a record is written with. -/
def fields (r : Record) : Fields :=
  match r.toJson with
  | .obj fields => fields
  | _ => []

theorem toJson_eq_obj (r : Record) : r.toJson = .obj r.fields :=
  rfl

/-- A record is written with the fields that it is read from, in the order of the rules. -/
theorem map_fst_fields (r : Record) : r.fields.map (·.1) = rules.map (·.name) :=
  rfl

/-- The rules are for different fields. -/
theorem nodup_rules : (rules.map (·.name)).Nodup := by
  decide

/-- Every rule is for a field that a record has, with a value of the right kind. -/
theorem exists_value_of_mem_rules (r : Record) {rule : FieldRule} (h : rule ∈ rules) :
    ∃ v, r.value? rule.name = some v ∧ rule.kind.Fits v ∧ v.isNull = false := by
  simp only [rules, List.mem_cons, List.not_mem_nil, or_false] at h
  rcases h with rfl | rfl | rfl | rfl | rfl | rfl | rfl | rfl | rfl | rfl
  all_goals exact ⟨_, rfl, ⟨_, rfl⟩, rfl⟩

variable (r : Record)

/-- No field is written twice. -/
theorem nodup_fields : (r.fields.map (·.1)).Nodup := by
  rw [map_fst_fields]
  exact nodup_rules

/-- The value of a field is the one that is written. -/
theorem value?_eq_some_iff {name : String} {v : Json} :
    r.value? name = some v ↔ (name, v) ∈ r.fields :=
  Fields.get?_eq_some_iff r.nodup_fields

/-- No field is written as null, and so all of them are given. -/
theorem given?_fields {rule : FieldRule} (h : rule ∈ rules) :
    Fields.given? rule.name r.fields = r.value? rule.name := by
  obtain ⟨v, hvalue, -, hnull⟩ := r.exists_value_of_mem_rules h
  have hget : Fields.get? rule.name r.fields = some v := hvalue
  rw [Fields.given?_of_nodup r.nodup_fields, hget, hvalue, Option.filter_some, hnull]
  rfl

/-- The fields of a record describe one. -/
theorem describeRecord_fields : Fields.DescribeRecord r.fields where
  suits field hfield _ rule hrule hname := by
    obtain ⟨v, hvalue, hfits, -⟩ := r.exists_value_of_mem_rules hrule
    have hwritten : r.value? rule.name = some field.2 := by
      rw [value?_eq_some_iff, hname]
      exact hfield
    rw [← Option.some.inj (hvalue.symm.trans hwritten)]
    exact hfits
  complete rule hrule _ := by
    obtain ⟨v, hvalue, -, -⟩ := r.exists_value_of_mem_rules hrule
    rw [r.given?_fields hrule, hvalue]
    exact Option.some_ne_none v

/-- The fields of a record give the record. -/
theorem isGivenBy_fields : r.IsGivenBy r.fields := by
  intro rule hrule
  obtain ⟨v, hvalue, -, -⟩ := r.exists_value_of_mem_rules hrule
  rw [r.given?_fields hrule, hvalue, Option.some_or]

/-- **One record** is read back as it was written. -/
theorem ofJsonAt_toJson (path : JsonPath) : ofJsonAt path (Library.dropNulls r.toJson) = .ok r := by
  obtain ⟨other, hread, hgiven⟩ := ofJsonAt_of_describeRecord r.describeRecord_fields path
  rw [toJson_eq_obj, hread, hgiven.unique r.isGivenBy_fields]

end Record

namespace Library

/-- **All records** are read back as they were written. -/
theorem ofItems_toJson (rs : List Record) (index : Nat) :
    Record.ofItems index ((rs.map Record.toJson).map dropNulls) = .ok rs := by
  induction rs generalizing index with
  | nil => rfl
  | cons r rs ih =>
      rw [List.map_cons, List.map_cons, Record.ofItems, r.ofJsonAt_toJson, ih]
      rfl

/-- A record is written with a title that is not empty exactly if it has one. -/
theorem isTitled_toJson (r : Record) : isTitled r.toJson = decide (r.title ≠ "") :=
  rfl

section Documents

variable {rs : List Record} {v : Json} (h : HasBooks v (rs.map Record.toJson))

include h

/-- A document that holds exported records gives these records, if the first one has a title. -/
theorem recordsOfJson_of_titled (htitle : ∀ first ∈ rs.head?, first.title ≠ "") :
    recordsOfJson v = .ok rs := by
  rw [recordsOfJson, books?_eq_some_iff.mpr h]
  cases rs with
  | nil => rfl
  | cons first rest =>
      have hread := ofItems_toJson (first :: rest) 0
      rw [List.map_cons] at hread ⊢
      have htitled : isTitled first.toJson = true := by
        rw [isTitled_toJson]
        exact decide_eq_true (htitle first rfl)
      simp only [htitled, if_true, hread]
      rfl

/-- It is refused if the first one has none. -/
theorem recordsOfJson_of_untitled {first : Record} (hfirst : first ∈ rs.head?)
    (htitle : first.title = "") : recordsOfJson v = .error .untitled := by
  rw [recordsOfJson, books?_eq_some_iff.mpr h]
  cases rs with
  | nil => cases hfirst
  | cons other rest =>
      obtain rfl : other = first := Option.some.inj hfirst
      have huntitled : isTitled other.toJson = false := by
        rw [isTitled_toJson]
        exact decide_eq_false (not_not.mpr htitle)
      rw [List.map_cons]
      simp only [huntitled]
      rfl

end Documents

/-- Records with different identifiers are a record set. -/
theorem ofRecords_records (set : RecordSet) : ofRecords set.records = .ok set := by
  rcases RecordSet.ofList_cases set.records with ⟨other, hset, hrecords, -⟩ | ⟨id, -, hrepeated⟩
  · rw [ofRecords, hset]
    cases set
    cases other
    cases hrecords
    rfl
  · exact absurd set.distinct hrepeated.not_nodup

/-- **An exported library** is loaded as it was exactly if its first record has a title, whatever
the document holds besides. -/
theorem ofJson_eq_ok_iff (source : Option String) (set : RecordSet) {v : Json}
    (h : HasBooks v (set.records.map Record.toJson)) :
    ofJson source v = .ok set ↔ ∀ first ∈ set.records.head?, first.title ≠ "" := by
  constructor
  · intro hloaded first hfirst htitle
    rw [ofJson, recordsOfJson_of_untitled h hfirst htitle] at hloaded
    cases hloaded
  · intro htitle
    rw [ofJson, recordsOfJson_of_titled h htitle]
    exact ofRecords_records set

/-- **Records are loaded as they were exported**, as a list or under `books`, if no two of them have
the same identifier and the first one has a title; later ones need none. -/
theorem ofJson_exported (source : Option String) {rs : List Record}
    (hdistinct : (rs.map (·.id)).Nodup) (htitle : ∀ first ∈ rs.head?, first.title ≠ "") :
    ofJson source (.arr (rs.map Record.toJson)) = .ok ⟨rs, hdistinct⟩ ∧
      ofJson source (.obj [("books", .arr (rs.map Record.toJson))]) = .ok ⟨rs, hdistinct⟩ :=
  ⟨(ofJson_eq_ok_iff source ⟨rs, hdistinct⟩ (Or.inl rfl)).mpr htitle,
    (ofJson_eq_ok_iff source ⟨rs, hdistinct⟩ (Or.inr ⟨_, rfl, rfl⟩)).mpr htitle⟩

/-- A book with all there is to tell, and one without anything. -/
def exportedBooks : List Record := [
  { id := -3, title := "Emma", titleSort := "emma", authors := "Austen & Co",
    authorSort := "austen", publisher := "Murray", timestamp := "1815-12-23",
    tags := ["novel", ""], formats := ["EPUB"], languages := "en" },
  { id := 0, title := "" }]

/-- The second book has no title. -/
theorem ofJson_exported_books :
    ∃ set : RecordSet, set.records = exportedBooks ∧
      ofJson none (.arr (exportedBooks.map Record.toJson)) = .ok set ∧
      ofJson none (.obj [("books", .arr (exportedBooks.map Record.toJson))]) = .ok set := by
  have hdistinct : (exportedBooks.map (·.id)).Nodup := by decide
  have htitle : ∀ first ∈ exportedBooks.head?, first.title ≠ "" := by
    rintro first ⟨⟩
    decide
  exact ⟨⟨exportedBooks, hdistinct⟩, rfl, ofJson_exported none hdistinct htitle⟩

end Library

end Catalogue
