import Mathlib
import Catalogue.Library

/-!
# Which fields describe a record

What a record asks of its fields is one table (`Record.rules`), so reading a field is one lemma for
each outcome: a value of the right kind is stored under its name and nowhere else
(`Draft.read_of_suits`), and any other value is refused where it stands (`Draft.read_of_not_suits`).
Fields that describe a record (`Fields.DescribeRecord`) give exactly one, which has the values that
they give and the defaults where they give none (`Record.IsGivenBy`).  All others have a fault,
which names its place (`RecordFault.IsOf`).
-/

namespace Catalogue

/-- A value has another one as its part. -/
def Json.HasPart : Json → PathStep → Json → Prop
  | .arr items, .item index, w => items[index]? = some w
  | .obj fields, .field name, w => (name, w) ∈ fields
  | _, _, _ => False

/-- A path leads from a value to another one. -/
inductive Json.Leads : Json → JsonPath → Json → Prop
  | here (v : Json) : Leads v [] v
  | step {v w u : Json} {s : PathStep} {path : JsonPath} (part : v.HasPart s w)
      (rest : Leads w path u) : Leads v (s :: path) u

/-- The first fields are asked first. -/
theorem Fields.get?_append (name : String) (fields more : Fields) :
    Fields.get? name (fields ++ more) = (Fields.get? name fields).or (Fields.get? name more) :=
  List.lookup_append

theorem Fields.get?_singleton (name : String) (field : String × Json) :
    Fields.get? name [field] = if name = field.1 then some field.2 else none := by
  simp only [Fields.get?, List.lookup]
  split <;> simp_all

/-- Among fields with different names, a name has the value that it is paired with. -/
theorem Fields.get?_eq_some_iff {fields : Fields} (h : (fields.map (·.1)).Nodup) {name : String}
    {v : Json} : Fields.get? name fields = some v ↔ (name, v) ∈ fields := by
  induction fields with
  | nil => simp [Fields.get?]
  | cons field fields ih =>
      obtain ⟨hfresh, hfields⟩ := List.nodup_cons.mp h
      rw [Fields.get?, List.lookup]
      split
      · next hname =>
        obtain rfl := eq_of_beq hname
        have habsent : (field.1, v) ∉ fields := fun hmem =>
          hfresh (List.mem_map.mpr ⟨_, hmem, rfl⟩)
        simp [habsent, Prod.ext_iff, eq_comm]
      · next hname =>
        have hdiffer : (name, v) ≠ field := by
          rintro rfl
          simp at hname
        rw [List.mem_cons, or_iff_right hdiffer]
        exact ih hfields

/-- What kind of value a field of a record has. -/
inductive FieldKind where
  | integer
  | text
  | texts
  deriving DecidableEq, Repr

/-- A value is of the kind. -/
def FieldKind.Fits : FieldKind → Json → Prop
  | .integer, v => ∃ n, v = .int n
  | .text, v => ∃ s, v = .str s
  | .texts, v => ∃ ss : List String, v = .arr (ss.map .str)

/-- What is asked of one field of a record. -/
structure FieldRule where
  name : String
  kind : FieldKind
  /-- The value of the field where none is given, unless one has to be given. -/
  default : Option Json

/-- What is asked of the fields of a record. -/
def Record.rules : List FieldRule := [
  ⟨"id", .integer, none⟩,
  ⟨"title", .text, none⟩,
  ⟨"title_sort", .text, some (.str "")⟩,
  ⟨"authors", .text, some (.str "")⟩,
  ⟨"author_sort", .text, some (.str "")⟩,
  ⟨"publisher", .text, some (.str "")⟩,
  ⟨"timestamp", .text, some (.str "")⟩,
  ⟨"tags", .texts, some (.arr [])⟩,
  ⟨"formats", .texts, some (.arr [])⟩,
  ⟨"languages", .text, some (.str "")⟩]

/-- The value that fields give to a name.  Null is no value, and of several the last one counts. -/
def Fields.given? (name : String) (fields : Fields) : Option Json :=
  Fields.get? name (fields.filter fun field => !field.2.isNull).reverse

/-- Among fields with different names, a name is given the value of its field, unless it is null. -/
theorem Fields.given?_of_nodup {fields : Fields} (h : (fields.map (·.1)).Nodup) (name : String) :
    Fields.given? name fields = (Fields.get? name fields).filter (!·.isNull) := by
  have hgiven : (((fields.filter fun field => !field.2.isNull).reverse).map (·.1)).Nodup := by
    rw [List.map_reverse, List.nodup_reverse]
    exact h.sublist (List.filter_sublist.map _)
  ext v
  rw [Fields.given?, Fields.get?_eq_some_iff hgiven, List.mem_reverse, List.mem_filter,
    Option.filter_eq_some_iff, Fields.get?_eq_some_iff h]

/-- A field has a value of the right kind, if it is one that a record has. -/
def Record.Suits (field : String × Json) : Prop :=
  ∀ rule ∈ Record.rules, rule.name = field.1 → rule.kind.Fits field.2

/-- Fields describe a record. -/
structure Fields.DescribeRecord (fields : Fields) : Prop where
  /-- Every value is of the kind that its field has. -/
  suits : ∀ field ∈ fields, field.2.isNull = false → Record.Suits field
  /-- Every field without a default is given. -/
  complete : ∀ rule ∈ Record.rules, rule.default = none → Fields.given? rule.name fields ≠ none

/-- The value of a field of a record. -/
def Record.value? (r : Record) (name : String) : Option Json :=
  match r.toJson with
  | .obj fields => Fields.get? name fields
  | _ => none

/-- A record has the values that fields give, and the defaults where they give none. -/
def Record.IsGivenBy (r : Record) (fields : Fields) : Prop :=
  ∀ rule ∈ Record.rules, r.value? rule.name = (Fields.given? rule.name fields).or rule.default

/-- Fields give one record only. -/
theorem Record.IsGivenBy.unique {r r' : Record} {fields : Fields} (h : r.IsGivenBy fields)
    (h' : r'.IsGivenBy fields) : r = r' := by
  have hvalues : ∀ rule ∈ Record.rules, r.value? rule.name = r'.value? rule.name :=
    fun rule hrule => (h rule hrule).trans (h' rule hrule).symm
  have htexts : Function.Injective (List.map Json.str) :=
    List.map_injective_iff.mpr fun _ _ => Json.str.inj
  cases r
  cases r'
  simpa [Record.rules, Record.value?, Record.toJson, Fields.get?, List.lookup, htexts.eq_iff]
    using hvalues

/-- A fault is one of the value that stands at the path: it names a part of the value, and what is
wrong with that part. -/
def RecordFault.IsOf (path : JsonPath) (v : Json) : RecordFault → Prop
  | .mismatch expected found place => ∃ rest w, place = path ++ rest ∧ v.Leads rest w ∧
      w.kind = found ∧ found ≠ expected
  | .missing name place => ∃ rest fields, place = path ++ rest ∧ v.Leads rest (.obj fields) ∧
      Fields.given? name fields = none

/-- A fault of a part is a fault of the whole. -/
theorem RecordFault.IsOf.of_part {fault : RecordFault} {path : JsonPath} {s : PathStep} {v w : Json}
    (h : fault.IsOf (path ++ [s]) w) (part : v.HasPart s w) : fault.IsOf path v := by
  cases fault with
  | mismatch expected found place =>
      obtain ⟨rest, u, rfl, hleads, hkind⟩ := h
      exact ⟨s :: rest, u, by simp, .step part hleads, hkind⟩
  | missing name place =>
      obtain ⟨rest, fields, rfl, hleads, hgiven⟩ := h
      exact ⟨s :: rest, fields, by simp, .step part hleads, hgiven⟩

/-- A value of the wrong kind. -/
theorem RecordFault.isOf_mismatch {expected : Json.Kind} {v : Json} (h : v.kind ≠ expected)
    (path : JsonPath) : (RecordFault.mismatch expected v.kind path).IsOf path v :=
  ⟨[], v, by simp, .here v, rfl, h⟩

namespace Record

/-- What is done with a value does not change the fault that is found instead of one. -/
theorem exists_map_error {α β : Type} {x : Except RecordFault α} {f : α → β}
    {p : RecordFault → Prop} (h : ∃ fault, x = .error fault ∧ p fault) :
    ∃ fault, x.map f = .error fault ∧ p fault := by
  obtain ⟨fault, rfl, hp⟩ := h
  exact ⟨fault, rfl, hp⟩

/-- Anything but an integer is refused with the path where it stands. -/
theorem expectInt_error {v : Json} (h : ¬ FieldKind.integer.Fits v) (path : JsonPath) :
    ∃ fault, expectInt path v = .error fault ∧ fault.IsOf path v := by
  cases v with
  | int n => exact absurd ⟨n, rfl⟩ h
  | _ => exact ⟨_, rfl, RecordFault.isOf_mismatch (by simp [Json.kind]) path⟩

theorem expectText_error {v : Json} (h : ¬ FieldKind.text.Fits v) (path : JsonPath) :
    ∃ fault, expectText path v = .error fault ∧ fault.IsOf path v := by
  cases v with
  | str s => exact absurd ⟨s, rfl⟩ h
  | _ => exact ⟨_, rfl, RecordFault.isOf_mismatch (by simp [Json.kind]) path⟩

theorem expectItems_ok (path : JsonPath) (index : Nat) (ss : List String) :
    expectItems path index (ss.map .str) = .ok ss := by
  induction ss generalizing index with
  | nil => rfl
  | cons s ss ih =>
      rw [List.map_cons, expectItems, ih]
      rfl

/-- An array that does not hold texts only is refused at one of its items. -/
theorem expectItems_error {items : List Json} (h : ¬ FieldKind.texts.Fits (.arr items))
    (path : JsonPath) (index : Nat) :
    ∃ fault, expectItems path index items = .error fault ∧
      ∃ i item, items[i]? = some item ∧ fault.IsOf (path ++ [.item (index + i)]) item := by
  induction items generalizing index with
  | nil => exact absurd ⟨[], rfl⟩ h
  | cons item items ih =>
      by_cases htext : FieldKind.text.Fits item
      · obtain ⟨s, rfl⟩ := htext
        have hrest : ¬ FieldKind.texts.Fits (.arr items) := by
          rintro ⟨ss, hss⟩
          exact h ⟨s :: ss, by rw [Json.arr.inj hss]; rfl⟩
        obtain ⟨fault, herror, i, other, hother, hof⟩ := ih hrest (index + 1)
        refine ⟨fault, ?_, i + 1, other, hother, ?_⟩
        · rw [expectItems, herror]
          rfl
        · rwa [show index + (i + 1) = index + 1 + i by omega]
      · obtain ⟨fault, herror, hof⟩ := expectText_error htext (path ++ [.item index])
        refine ⟨fault, ?_, 0, item, rfl, hof⟩
        rw [expectItems, herror]
        rfl

/-- Anything but a list of texts is refused: as a whole, or at its first item that is no text. -/
theorem expectTexts_error {v : Json} (h : ¬ FieldKind.texts.Fits v) (path : JsonPath) :
    ∃ fault, expectTexts path v = .error fault ∧ fault.IsOf path v := by
  cases v with
  | arr items =>
      obtain ⟨fault, herror, i, item, hitem, hof⟩ := expectItems_error h path 0
      rw [Nat.zero_add] at hof
      exact ⟨fault, herror, hof.of_part hitem⟩
  | _ => exact ⟨_, rfl, RecordFault.isOf_mismatch (by simp [Json.kind]) path⟩

namespace Draft

/-- The value of a field of a draft, if it has one yet. -/
def value? (d : Draft) (name : String) : Option Json :=
  match name with
  | "id" => d.id.map .int
  | "title" => d.title.map .str
  | "title_sort" => some (.str d.titleSort)
  | "authors" => some (.str d.authors)
  | "author_sort" => some (.str d.authorSort)
  | "publisher" => some (.str d.publisher)
  | "timestamp" => some (.str d.timestamp)
  | "tags" => some (.arr (d.tags.map .str))
  | "formats" => some (.arr (d.formats.map .str))
  | "languages" => some (.str d.languages)
  | _ => none

/-- A draft starts with the defaults. -/
theorem value?_start : ∀ rule ∈ rules, ({} : Draft).value? rule.name = rule.default := by
  simp [rules, value?]

/-- **A value that fits** is read into its field and leaves the others alone. -/
theorem read_of_fits (d : Draft) (path : JsonPath) {rule : FieldRule} (hrule : rule ∈ rules)
    {v : Json} (h : rule.kind.Fits v) :
    ∃ d', d.read path (rule.name, v) = .ok d' ∧ d'.value? rule.name = some v ∧
      ∀ other, other ≠ rule.name → d'.value? other = d.value? other := by
  simp only [rules, List.mem_cons, List.not_mem_nil, or_false] at hrule
  rcases hrule with rfl | rfl | rfl | rfl | rfl | rfl | rfl | rfl | rfl | rfl <;>
    obtain ⟨x, rfl⟩ := h
  all_goals
    refine ⟨_, by first | rfl | exact congrArg (Except.map _) (expectItems_ok _ 0 _), rfl,
      fun other hother => ?_⟩
    unfold value?
    split <;> first | rfl | exact absurd rfl hother

/-- **A value that does not fit** is refused where it stands. -/
theorem read_of_not_fits (d : Draft) (path : JsonPath) {rule : FieldRule} (hrule : rule ∈ rules)
    {v : Json} (h : ¬ rule.kind.Fits v) :
    ∃ fault, d.read path (rule.name, v) = .error fault ∧
      fault.IsOf (path ++ [.field rule.name]) v := by
  simp only [rules, List.mem_cons, List.not_mem_nil, or_false] at hrule
  rcases hrule with rfl | rfl | rfl | rfl | rfl | rfl | rfl | rfl | rfl | rfl
  all_goals
    first
      | exact exists_map_error (expectInt_error h _)
      | exact exists_map_error (expectText_error h _)
      | exact exists_map_error (expectTexts_error h _)

/-- A field that no record has is skipped. -/
theorem read_unknown (d : Draft) (path : JsonPath) {name : String}
    (h : ∀ rule ∈ rules, rule.name ≠ name) (v : Json) : d.read path (name, v) = .ok d := by
  simp only [rules, List.forall_mem_cons] at h
  unfold read
  split <;> simp_all

/-- **One field.**  A suitable one is read into its place, if it has one. -/
theorem read_of_suits (d : Draft) (path : JsonPath) {field : String × Json} (h : Suits field) :
    ∃ d', d.read path field = .ok d' ∧ ∀ rule ∈ rules,
      d'.value? rule.name = if rule.name = field.1 then some field.2 else d.value? rule.name := by
  obtain ⟨name, v⟩ := field
  by_cases hknown : ∃ rule ∈ rules, rule.name = name
  · obtain ⟨rule, hrule, rfl⟩ := hknown
    obtain ⟨d', hread, hvalue, hothers⟩ := d.read_of_fits path hrule (h rule hrule rfl)
    refine ⟨d', hread, fun other _ => ?_⟩
    split
    · next hsame => rw [hsame, hvalue]
    · next hdiffer => exact hothers _ hdiffer
  · push Not at hknown
    refine ⟨d, d.read_unknown path hknown v, fun other hother => ?_⟩
    rw [if_neg (hknown other hother)]

/-- One field that is not suitable is refused where it stands. -/
theorem read_of_not_suits (d : Draft) (path : JsonPath) {field : String × Json}
    (h : ¬ Suits field) :
    ∃ fault, d.read path field = .error fault ∧
      fault.IsOf (path ++ [.field field.1]) field.2 := by
  obtain ⟨name, v⟩ := field
  simp only [Suits] at h
  push Not at h
  obtain ⟨rule, hrule, rfl, hmisfit⟩ := h
  exact d.read_of_not_fits path hrule hmisfit

/-- **All fields.**  Suitable ones are read; of several for one name the last one counts. -/
theorem readAll_of_suits (path : JsonPath) {fields : Fields} (h : ∀ field ∈ fields, Suits field)
    (d : Draft) :
    ∃ d', d.readAll path fields = .ok d' ∧ ∀ rule ∈ rules,
      d'.value? rule.name = (Fields.get? rule.name fields.reverse).or (d.value? rule.name) := by
  induction fields generalizing d with
  | nil => exact ⟨d, rfl, fun _ _ => rfl⟩
  | cons field fields ih =>
      obtain ⟨hfield, hfields⟩ := List.forall_mem_cons.mp h
      obtain ⟨d₁, hread, hvalue⟩ := d.read_of_suits path hfield
      obtain ⟨d₂, hreadAll, hvalues⟩ := ih hfields d₁
      refine ⟨d₂, by rw [readAll, hread]; exact hreadAll, fun rule hrule => ?_⟩
      rw [hvalues rule hrule, hvalue rule hrule, List.reverse_cons, Fields.get?_append,
        Option.or_assoc, Fields.get?_singleton]
      split <;> rfl

/-- Where some field is not suitable, one of them is refused. -/
theorem readAll_of_not_suits (path : JsonPath) {fields : Fields}
    (h : ¬ ∀ field ∈ fields, Suits field) (d : Draft) :
    ∃ fault, d.readAll path fields = .error fault ∧
      ∃ field ∈ fields, fault.IsOf (path ++ [.field field.1]) field.2 := by
  induction fields generalizing d with
  | nil => exact absurd (by simp) h
  | cons field fields ih =>
      by_cases hfield : Suits field
      · have hrest := fun hfields => h (List.forall_mem_cons.mpr ⟨hfield, hfields⟩)
        obtain ⟨d', hread, -⟩ := d.read_of_suits path hfield
        obtain ⟨fault, herror, other, hother, hof⟩ := ih hrest d'
        refine ⟨fault, ?_, other, List.mem_cons_of_mem _ hother, hof⟩
        rw [readAll, hread]
        exact herror
      · obtain ⟨fault, herror, hof⟩ := d.read_of_not_suits path hfield
        refine ⟨fault, ?_, field, List.mem_cons_self, hof⟩
        rw [readAll, herror]

/-- A draft with an identifier and a title becomes the record with its values. -/
theorem finish_of_complete (d : Draft) (path : JsonPath)
    (h : ∀ rule ∈ rules, rule.default = none → d.value? rule.name ≠ none) :
    ∃ r, d.finish path = .ok r ∧ ∀ rule ∈ rules, r.value? rule.name = d.value? rule.name := by
  obtain ⟨id?, title?, titleSort, authors, authorSort, publisher, timestamp, tags, formats,
    languages⟩ := d
  have hid : id? ≠ none := by simpa [value?] using h ⟨"id", .integer, none⟩ (by simp [rules]) rfl
  have htitle : title? ≠ none := by
    simpa [value?] using h ⟨"title", .text, none⟩ (by simp [rules]) rfl
  obtain ⟨id, rfl⟩ := Option.ne_none_iff_exists'.mp hid
  obtain ⟨title, rfl⟩ := Option.ne_none_iff_exists'.mp htitle
  refine ⟨_, rfl, ?_⟩
  simp only [rules, List.forall_mem_cons]
  exact ⟨rfl, rfl, rfl, rfl, rfl, rfl, rfl, rfl, rfl, rfl, by simp⟩

/-- A draft without an identifier or without a title is refused. -/
theorem finish_of_incomplete (d : Draft) (path : JsonPath)
    (h : ¬ ∀ rule ∈ rules, rule.default = none → d.value? rule.name ≠ none) :
    ∃ rule ∈ rules, d.value? rule.name = none ∧
      d.finish path = .error (.missing rule.name path) := by
  obtain ⟨id?, title?, titleSort, authors, authorSort, publisher, timestamp, tags, formats,
    languages⟩ := d
  cases id? with
  | none => exact ⟨⟨"id", .integer, none⟩, by simp [rules], rfl, rfl⟩
  | some id =>
      cases title? with
      | none => exact ⟨⟨"title", .text, none⟩, by simp [rules], rfl, rfl⟩
      | some title => exact absurd (by simp [rules, value?]) h

end Draft

/-- Nulls are dropped before a field is checked. -/
theorem suits_filter_iff {fields : Fields} :
    (∀ field ∈ fields.filter fun field => !field.2.isNull, Suits field) ↔
      ∀ field ∈ fields, field.2.isNull = false → Suits field := by
  simp only [List.mem_filter, Bool.not_eq_true', and_imp]

/-- The values of a draft that was read from fields. -/
theorem value?_of_readAll (path : JsonPath) {fields : Fields}
    (hsuits : ∀ field ∈ fields.filter fun field => !field.2.isNull, Suits field) :
    ∃ d, Draft.readAll path {} (fields.filter fun field => !field.2.isNull) = .ok d ∧
      ∀ rule ∈ rules, d.value? rule.name = (Fields.given? rule.name fields).or rule.default := by
  obtain ⟨d, hread, hvalue⟩ := Draft.readAll_of_suits path hsuits {}
  refine ⟨d, hread, fun rule hrule => ?_⟩
  rw [hvalue rule hrule, Draft.value?_start rule hrule, Fields.given?]

/-- **One book** whose fields describe a record gives that record. -/
theorem ofJsonAt_of_describeRecord {fields : Fields} (h : Fields.DescribeRecord fields)
    (path : JsonPath) :
    ∃ r, ofJsonAt path (Library.dropNulls (.obj fields)) = .ok r ∧ r.IsGivenBy fields := by
  obtain ⟨d, hread, hvalue⟩ := value?_of_readAll path (suits_filter_iff.mpr h.suits)
  have hcomplete : ∀ rule ∈ rules, rule.default = none → d.value? rule.name ≠ none := by
    intro rule hrule hrequired
    rw [hvalue rule hrule, hrequired, Option.or_none]
    exact h.complete rule hrule hrequired
  obtain ⟨r, hfinish, hrecord⟩ := d.finish_of_complete path hcomplete
  refine ⟨r, ?_, fun rule hrule => (hrecord rule hrule).trans (hvalue rule hrule)⟩
  rw [Library.dropNulls, ofJsonAt, hread]
  exact hfinish

/-- One book that describes no record has a fault. -/
theorem ofJsonAt_error {v : Json} (h : ¬ ∃ fields, v = .obj fields ∧ Fields.DescribeRecord fields)
    (path : JsonPath) :
    ∃ fault, ofJsonAt path (Library.dropNulls v) = .error fault ∧ fault.IsOf path v := by
  cases v with
  | obj fields =>
      by_cases hsuits : ∀ field ∈ fields.filter fun field => !field.2.isNull, Suits field
      · obtain ⟨d, hread, hvalue⟩ := value?_of_readAll path hsuits
        have hincomplete : ¬ ∀ rule ∈ rules, rule.default = none → d.value? rule.name ≠ none := by
          intro hcomplete
          refine h ⟨fields, rfl, suits_filter_iff.mp hsuits, fun rule hrule hrequired => ?_⟩
          have hvalued := hcomplete rule hrule hrequired
          rwa [hvalue rule hrule, hrequired, Option.or_none] at hvalued
        obtain ⟨rule, hrule, hnone, hfinish⟩ := d.finish_of_incomplete path hincomplete
        refine ⟨.missing rule.name path, ?_, [], fields, (List.append_nil path).symm, .here _, ?_⟩
        · rw [Library.dropNulls, ofJsonAt, hread]
          exact hfinish
        · rw [hvalue rule hrule, Option.or_eq_none_iff] at hnone
          exact hnone.1
      · obtain ⟨fault, herror, field, hfield, hof⟩ := Draft.readAll_of_not_suits path hsuits {}
        refine ⟨fault, ?_, hof.of_part (List.mem_of_mem_filter hfield)⟩
        rw [Library.dropNulls, ofJsonAt, herror]
  | _ => exact ⟨_, rfl, RecordFault.isOf_mismatch (by simp [Json.kind]) path⟩

end Record

end Catalogue
