import Catalogue.Json.Writer
import Catalogue.Proofs.Library.Holding
import Catalogue.Proofs.Library.Loading
import Catalogue.Proofs.Outcome
import Catalogue.Proofs.Text.Splitting

/-!
# Where a rejected document came from

A rejection names its source when it holds it and its message begins with it.  The checks that a
document goes through all know the source, and the last one does not: it is the construction of a
record set, which takes records from anywhere.  So a step that has a source names it in every
rejection exactly when no identifier is repeated (`Library.Step.namesSource_iff`), and this is so
of decoding and loading alike (`Library.rejections_name_source_iff`).
-/

namespace Catalogue

/-- A path is never spelled by the empty text. -/
theorem FilePath.text_ofText_ne_empty (s : String) : (FilePath.ofText s).text ≠ "" := by
  have hnames : ∀ name ∈ (FilePath.ofText s).names, name ≠ "" := fun name hname =>
    (of_decide_eq_true (List.mem_filter.mp hname).2).1
  -- Nothing else is needed of the path.
  generalize FilePath.ofText s = path at hnames
  obtain ⟨start, names⟩ := path
  rw [FilePath.text]
  split
  · decide
  · next hpath =>
    cases start with
    | root => simp [PathStart.text]
    | doubleRoot => simp [PathStart.text]
    | workingDirectory =>
        cases names with
        | nil => exact absurd rfl hpath
        | cons first rest =>
            rw [PathStart.text, String.empty_append]
            exact Text.join_ne_empty (hnames first List.mem_cons_self) "/" rest

namespace Library

/-- A rejection names a source, as its own and in its message. -/
structure Rejection.Names (r : Rejection) (source : String) : Prop where
  source_eq : r.source = some source
  message_eq : r.message = source ++ ": " ++ r.reason.message

/-- The message follows the source that a rejection has. -/
theorem Rejection.names_iff {r : Rejection} {source : String} (hne : source ≠ "") :
    r.Names source ↔ r.source = some source := by
  refine ⟨Rejection.Names.source_eq, fun hsource => ⟨hsource, ?_⟩⟩
  simp only [Rejection.message, hsource, if_neg hne]

/-- Every rejection that can be the result names a source. -/
def NamesSource (source : String) (result : Except LoadError RecordSet) : Prop :=
  ∀ r, result = .error (.rejected r) → r.Names source

/-- A value stands in a list behind an equal one, and nothing before it does so. -/
def FirstRepeats {α : Type*} (a : α) (l : List α) : Prop :=
  ∃ before after, l = before ++ a :: after ∧ before.Nodup ∧ a ∈ before

theorem firstRepeats_map_iff {α β : Type*} {f : α → β} (hf : f.Injective) {a : α} {l : List α} :
    FirstRepeats (f a) (l.map f) ↔ FirstRepeats a l := by
  constructor
  · rintro ⟨before, after, hsplit, hnodup, hmem⟩
    obtain ⟨l₁, l₂, rfl, rfl, hrest⟩ := List.map_eq_append_iff.mp hsplit
    obtain ⟨b, l₃, rfl, hb, rfl⟩ := List.map_eq_cons_iff.mp hrest
    obtain rfl := hf hb
    exact ⟨l₁, l₃, rfl, hnodup.of_map f, (List.mem_map_of_injective hf).mp hmem⟩
  · rintro ⟨before, after, rfl, hnodup, hmem⟩
    exact ⟨before.map f, after.map f, by simp, hnodup.map hf, List.mem_map_of_mem hmem⟩

/-- Records repeat what their identifiers repeat. -/
theorem isFirstRepeated_iff {id : Int} {rs : List Record} :
    IsFirstRepeated id rs ↔ FirstRepeats id (rs.map (·.id)) := by
  constructor
  · rintro ⟨before, r, after, rfl, rfl, hnodup, hmem⟩
    exact ⟨before.map (·.id), after.map (·.id), by simp, hnodup, hmem⟩
  · rintro ⟨before, after, hsplit, hnodup, hmem⟩
    obtain ⟨rs₁, rs₂, rfl, rfl, hrest⟩ := List.map_eq_append_iff.mp hsplit
    obtain ⟨r, rs₃, rfl, hr, rfl⟩ := List.map_eq_cons_iff.mp hrest
    exact ⟨rs₁, r, rs₃, rfl, hr, hnodup, hmem⟩

/-- The books of a document describe records, and this is the first identifier that a book gives
again. -/
def RepeatsId (v : Json) (id : Int) : Prop :=
  ∃ books, DescribesRecords v books ∧ FirstRepeats (some (Json.int id)) (books.map idOf)

/-- A document repeats the identifier that its records repeat. -/
theorem repeatsId_iff {v : Json} {id : Int} :
    RepeatsId v id ↔ ∃ rs, recordsOfJson v = .ok rs ∧ IsFirstRepeated id rs := by
  have hbooks : ∀ {rs books}, List.Forall₂ IsRecordOf rs books →
      (FirstRepeats (some (Json.int id)) (books.map idOf) ↔ IsFirstRepeated id rs) := by
    intro rs books hall
    rw [map_idOf_eq hall, isFirstRepeated_iff]
    exact firstRepeats_map_iff int_injective
  constructor
  · rintro ⟨books, hdescribes, hrepeats⟩
    obtain ⟨rs, hrecords, hall⟩ := recordsOfJson_of_describesRecords hdescribes
    exact ⟨rs, hrecords, (hbooks hall).mp hrepeats⟩
  · rintro ⟨rs, hrecords, hrepeated⟩
    obtain ⟨books, hdescribes, hall⟩ := describesRecords_of_recordsOfJson hrecords
    exact ⟨books, hdescribes, (hbooks hall).mpr hrepeated⟩

variable {decoder : Json.Decoder}

theorem readRecords_eq_ok_iff {source : Option String} {bytes : List UInt8} {rs : List Record} :
    readRecords decoder source bytes = .ok rs ↔
      ∃ v, Json.read decoder.maxDepth bytes = .ok v ∧ recordsOfJson v = .ok rs := by
  rw [readRecords]
  cases Json.read decoder.maxDepth bytes with
  | error e => cases e <;> simp
  | ok v => simp [mapError_eq_ok_iff]

/-- Bytes whose records cannot be read are rejected with their source. -/
theorem source_of_readRecords {source : Option String} {bytes : List UInt8} {r : Rejection}
    (h : readRecords decoder source bytes = .error (.rejected r)) : r.source = source := by
  rw [readRecords] at h
  split at h
  · cases h
    rfl
  · cases h
  · cases h
  · obtain ⟨reason, -, hreason⟩ := mapError_eq_error_iff.mp h
    cases hreason
    rfl

namespace Step

/-- Where the document of a step comes from, if that is known. -/
def source : Step → Option String
  | .decode _ source _ => source
  | .convert source _ => source
  | .load _ _ path => some path.text
  | .construct _ => none

/-- A JSON value is the document of a step. -/
def Reads (v : Json) : Step → Prop
  | .decode decoder _ bytes => Json.read decoder.maxDepth bytes = .ok v
  | .convert _ w => w = v
  | .load decoder files path =>
    ∃ bytes, files.read path = .ok bytes ∧ Json.read decoder.maxDepth bytes = .ok v
  | .construct _ => False

/-- Up to the construction of a record set, every check of a step knows the source. -/
theorem source_of_records {step : Step} {r : Rejection}
    (h : step.records = .error (.rejected r)) : r.source = step.source := by
  cases step with
  | decode decoder source bytes => exact source_of_readRecords h
  | construct rs => cases h
  | convert source v =>
      obtain ⟨reason, -, hreason⟩ := mapError_eq_error_iff.mp h
      cases hreason
      rfl
  | load decoder files path =>
      rw [records, readFile] at h
      split at h
      · cases h
        rfl
      · cases h
      · exact source_of_readRecords h

/-- The records of a step that has a source are those of its document. -/
theorem records_eq_ok_iff {step : Step} {source : String} (hsource : step.source = some source)
    {rs : List Record} :
    step.records = .ok rs ↔ ∃ v, step.Reads v ∧ recordsOfJson v = .ok rs := by
  cases step with
  | construct rs => cases hsource
  | decode decoder source bytes => exact readRecords_eq_ok_iff
  | convert source v => simp [records, Reads, mapError_eq_ok_iff]
  | load decoder files path =>
      rw [records, readFile]
      cases hread : files.read path with
      | error e => cases e <;> simp [Reads, hread]
      | ok bytes => simp [Reads, hread, readRecords_eq_ok_iff]

/-- A step is rejected by one of the checks that know the source, or for the first identifier that
its records repeat. -/
theorem result_eq_rejected_iff {step : Step} {r : Rejection} :
    step.result = .error (.rejected r) ↔
      step.records = .error (.rejected r) ∨
        ∃ rs id, step.records = .ok rs ∧ IsFirstRepeated id rs ∧ r = ⟨none, .repeatedId id⟩ := by
  rw [result_eq]
  cases step.records with
  | error e => simp
  | ok rs =>
      simp only [mapError_eq_error_iff, ofRecords_eq_error_iff, LoadError.rejected.injEq,
        exists_eq_right, reduceCtorEq, false_or, Except.ok.injEq]
      constructor
      · rintro ⟨id, rfl, hid⟩
        exact ⟨rs, id, rfl, hid, rfl⟩
      · rintro ⟨_, id, rfl, hid, rfl⟩
        exact ⟨id, rfl, hid⟩

variable {step : Step} {source : String}

/-- What a step rejects without a source is an identifier that its document repeats. -/
theorem result_eq_repeatedId_iff (hsource : step.source = some source) {id : Int} :
    step.result = .error (.rejected ⟨none, .repeatedId id⟩) ↔
      ∃ v, step.Reads v ∧ RepeatsId v id := by
  have hknown : step.records ≠ .error (.rejected ⟨none, .repeatedId id⟩) := fun h => by
    cases (source_of_records h).trans hsource
  simp only [result_eq_rejected_iff, hknown, false_or, records_eq_ok_iff hsource, repeatsId_iff]
  constructor
  · rintro ⟨rs, _, ⟨v, hreads, hrecords⟩, hrepeated, ⟨⟩⟩
    exact ⟨v, hreads, rs, hrecords, hrepeated⟩
  · rintro ⟨v, hreads, rs, hrecords, hrepeated⟩
    exact ⟨rs, id, ⟨v, hreads, hrecords⟩, hrepeated, rfl⟩

/-- **Rejections of a step that has a source.**  All of them name it exactly when its document
repeats no identifier. -/
theorem namesSource_iff (hsource : step.source = some source) (hne : source ≠ "") :
    NamesSource source step.result ↔ ∀ v id, step.Reads v → ¬ RepeatsId v id := by
  constructor
  · intro hnames v id hreads hrepeats
    have hrejected := (result_eq_repeatedId_iff hsource).mpr ⟨v, hreads, hrepeats⟩
    cases (hnames _ hrejected).source_eq
  · intro hdistinct r hrejected
    rcases result_eq_rejected_iff.mp hrejected with hknown | ⟨rs, id, hrecords, hrepeated, rfl⟩
    · exact (Rejection.names_iff hne).mpr ((source_of_records hknown).trans hsource)
    · obtain ⟨v, hreads, hdocument⟩ := (records_eq_ok_iff hsource).mp hrecords
      exact absurd (repeatsId_iff.mpr ⟨rs, hdocument, hrepeated⟩) (hdistinct v id hreads)

end Step

/-- **Rejections of documents and files.**  All rejections of a document name its source exactly
when no identifier is given again, and so it is of files and their paths.  The first identifier that
is given again is reported without a source. -/
theorem rejections_name_source_iff (decoder : Json.Decoder) (source : String) (hne : source ≠ "")
    (bytes : List UInt8) (files : FileSystem) (path : String) :
    (NamesSource source (decode decoder (some source) bytes) ↔
      ∀ v id, Json.read decoder.maxDepth bytes = .ok v → ¬ RepeatsId v id) ∧
    (∀ id, decode decoder (some source) bytes = .error (.rejected ⟨none, .repeatedId id⟩) ↔
      ∃ v, Json.read decoder.maxDepth bytes = .ok v ∧ RepeatsId v id) ∧
    (NamesSource (FilePath.ofText path).text (load decoder files (.ofText path)) ↔
      ∀ v id, (Step.load decoder files (.ofText path)).Reads v → ¬ RepeatsId v id) ∧
    ∀ id, load decoder files (.ofText path) = .error (.rejected ⟨none, .repeatedId id⟩) ↔
      ∃ v, (Step.load decoder files (.ofText path)).Reads v ∧ RepeatsId v id := by
  have hdecode : (Step.decode decoder (some source) bytes).source = some source := rfl
  have hload : (Step.load decoder files (.ofText path)).source = some (FilePath.ofText path).text :=
    rfl
  exact ⟨Step.namesSource_iff hdecode hne, fun _ => Step.result_eq_repeatedId_iff hdecode,
    Step.namesSource_iff hload (FilePath.text_ofText_ne_empty path),
    fun _ => Step.result_eq_repeatedId_iff hload⟩

/-- A decoder with room for two brackets, one inside the other. -/
def shallowDecoder : Json.Decoder := ⟨2, fun _ => "malformed document"⟩

/-- An array with an empty book is rejected with its source, since the book has no title. -/
theorem rejections_name_source_untitled :
    NamesSource "lib.json" (decode shallowDecoder (some "lib.json") [0x5B, 0x7B, 0x7D, 0x5D]) ∧
      decode shallowDecoder (some "lib.json") [0x5B, 0x7B, 0x7D, 0x5D] =
        .error (.rejected ⟨some "lib.json", .untitled⟩) := by
  have hrejected : decode shallowDecoder (some "lib.json") [0x5B, 0x7B, 0x7D, 0x5D] =
      .error (.rejected ⟨some "lib.json", .untitled⟩) := by with_unfolding_all rfl
  obtain ⟨hnames, hrepeats, -⟩ := rejections_name_source_iff shallowDecoder "lib.json" (by decide)
    [0x5B, 0x7B, 0x7D, 0x5D] {} "lib.json"
  refine ⟨hnames.mpr fun v id hread hrepeated => ?_, hrejected⟩
  have herror := (hrepeats id).mpr ⟨v, hread, hrepeated⟩
  rw [hrejected] at herror
  cases herror

/-- Two books with the same identifier. -/
def twins : Json :=
  .arr [.obj [("id", .int 1), ("title", .str "a")], .obj [("id", .int 1), ("title", .str "b")]]

/-- A document with two such books is rejected without its source, decoded or loaded. -/
theorem rejection_of_twins :
    let bytes := Text.Utf8.encode (Json.write twins).toList
    let r : Rejection := ⟨none, .repeatedId 1⟩
    decode shallowDecoder (some "lib.json") bytes = .error (.rejected r) ∧
      load shallowDecoder { root := .directory [("lib.json", .file bytes)] } (.ofText "lib.json") =
        .error (.rejected r) ∧
      r.message = "Duplicate record id: 1" ∧ ¬ r.Names "lib.json" := by
  refine ⟨by with_unfolding_all rfl, by with_unfolding_all rfl, rfl, fun hnames => ?_⟩
  cases hnames.source_eq

end Library

end Catalogue
