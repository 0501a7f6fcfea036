import Mathlib
import Catalogue.Library
import Catalogue.Proofs.Json.Reader
import Catalogue.Proofs.Outcome

/-!
# Documents that are neither loaded nor rejected

A document that is no library is rejected with a reason.  Two kinds of documents escape this: those
that hold a text that is no UTF-8, and those that nest arrays and objects too deeply.  No others do
(`Library.decode_faults`), and so a text is loaded or rejected unless it has more opening brackets
than the decoder lets be open at once.
-/

namespace Catalogue.Library

/-- A document has been loaded or rejected. -/
def IsSettled (result : Except LoadError RecordSet) : Prop :=
  (∃ set, result = .ok set) ∨ ∃ rejection, result = .error (.rejected rejection)

/-- The records of a document make a record set or are rejected. -/
theorem isSettled_ofRecords (rs : List Record) :
    IsSettled ((ofRecords rs).mapError .rejected) := by
  cases ofRecords rs with
  | ok set => exact .inl ⟨set, rfl⟩
  | error rejection => exact .inr ⟨rejection, rfl⟩

/-- Three faults are no rejections. -/
theorem isSettled_iff {result : Except LoadError RecordSet} :
    IsSettled result ↔ (∀ fault, result ≠ .error (.undecodable fault)) ∧
      result ≠ .error .tooDeep ∧ result ≠ .error .zeroInPath := by
  cases result with
  | ok set => simp [IsSettled]
  | error e => cases e <;> simp [IsSettled]

/-- A settled document meets none of the other faults. -/
theorem not_isSettled {e : LoadError} (h : ∀ rejection, e ≠ .rejected rejection) :
    ¬ IsSettled (.error e) := by
  rintro (⟨set, hset⟩ | ⟨rejection, hrejected⟩)
  · cases hset
  · exact h rejection (Except.error.inj hrejected)

variable {decoder : Json.Decoder} {source : Option String} {bytes : List UInt8}

/-- What is no rejection is reported before there are records. -/
theorem decode_eq_error_iff {e : LoadError} (h : ∀ rejection, e ≠ .rejected rejection) :
    decode decoder source bytes = .error e ↔ readRecords decoder source bytes = .error e := by
  rw [decode]
  cases readRecords decoder source bytes with
  | error other => simp
  | ok rs =>
      refine iff_of_false (fun hfault => ?_) (by simp)
      exact not_isSettled h (hfault ▸ isSettled_ofRecords rs)

/-- A text that is no UTF-8 is reported exactly when the document holds one. -/
theorem decode_eq_undecodable_iff {fault : Text.Utf8Error} :
    decode decoder source bytes = .error (.undecodable fault) ↔
      Json.HoldsBadText decoder.maxDepth bytes fault := by
  rw [decode_eq_error_iff (by simp), ← Json.read_eq_undecodable_iff, readRecords]
  split <;> simp [*, mapError_eq_error_iff]

/-- Depth is reported exactly when the document nests too deeply. -/
theorem decode_eq_tooDeep_iff :
    decode decoder source bytes = .error .tooDeep ↔ Json.NestsTooDeep decoder.maxDepth bytes := by
  rw [decode_eq_error_iff (by simp), ← Json.read_eq_tooDeep_iff, readRecords]
  split <;> simp [*, mapError_eq_error_iff]

/-- There is no path in a document that could be refused. -/
theorem decode_ne_zeroInPath : decode decoder source bytes ≠ .error .zeroInPath := by
  rw [ne_eq, decode_eq_error_iff (by simp), readRecords]
  split <;> simp [mapError_eq_error_iff]

/-- A document is settled exactly when it has neither of the two faults. -/
theorem isSettled_decode_iff :
    IsSettled (decode decoder source bytes) ↔
      (∀ fault, ¬ Json.HoldsBadText decoder.maxDepth bytes fault) ∧
        ¬ Json.NestsTooDeep decoder.maxDepth bytes := by
  simp only [isSettled_iff, ne_eq, decode_eq_undecodable_iff, decode_eq_tooDeep_iff,
    decode_ne_zeroInPath, not_false_eq_true, and_true]

/-- **Documents that are neither loaded nor rejected.**  However many brackets may be open at once,
a document is loaded or rejected exactly when it holds no text that is no UTF-8 and does not nest
too deeply.  If it does, the first such fault is what is reported.  The bytes of a text are loaded
or rejected if they have no more opening brackets than may be open at once, and opening brackets
alone are too many as soon as there are more. -/
theorem decode_faults (decoder : Json.Decoder) (source : Option String) (bytes : List UInt8) :
    (IsSettled (decode decoder source bytes) ↔
      (∀ fault, ¬ Json.HoldsBadText decoder.maxDepth bytes fault) ∧
        ¬ Json.NestsTooDeep decoder.maxDepth bytes) ∧
    (∀ fault, decode decoder source bytes = .error (.undecodable fault) ↔
      Json.HoldsBadText decoder.maxDepth bytes fault) ∧
    (decode decoder source bytes = .error .tooDeep ↔ Json.NestsTooDeep decoder.maxDepth bytes) ∧
    (∀ cs, (Text.Utf8.encode cs).countP Json.Token.isOpening ≤ decoder.maxDepth →
      IsSettled (decode decoder source (Text.Utf8.encode cs))) ∧
    ∀ n, decoder.maxDepth < n →
      decode decoder source (List.replicate n 0x5B) = .error .tooDeep := by
  refine ⟨isSettled_decode_iff, fun _ => decode_eq_undecodable_iff,
    decode_eq_tooDeep_iff, fun cs hcount => ?_, fun n hdeep => ?_⟩
  · exact isSettled_decode_iff.mpr
      ⟨Json.not_holdsBadText ⟨cs, rfl⟩, Json.not_nestsTooDeep hcount⟩
  · exact decode_eq_tooDeep_iff.mpr (Json.nestsTooDeep_replicate hdeep)

/-- A decoder with room for one bracket. -/
def flatDecoder : Json.Decoder := ⟨1, fun _ => "malformed document"⟩

/-- An array with a text of one byte, which begins no character, is neither loaded nor rejected. -/
theorem decode_faults_lone_byte :
    decode flatDecoder none [0x5B, 0x22, 0xFF, 0x22, 0x5D] =
        .error (.undecodable ⟨.start, 0, 0xFF, 1⟩) ∧
      ¬ IsSettled (decode flatDecoder none [0x5B, 0x22, 0xFF, 0x22, 0x5D]) := by
  have hbody : Json.Token.textBody [] [0xFF, 0x22, 0x5D] = some ([0xFF], [0x5D]) := by
    simp [Json.Token.textBody]
  have htext : Json.Reader.nextToken? [0x22, 0xFF, 0x22, 0x5D] = some (.text [0xFF], [0x5D]) := by
    simp [Json.Reader.nextToken?, Json.Token.isBlankByte, Json.Token.scan?, hbody]
  have hbad : Json.HoldsBadText 1 [0x5B, 0x22, 0xFF, 0x22, 0x5D] ⟨.start, 0, 0xFF, 1⟩ :=
    ⟨⟨[.array []], .firstItem⟩, [0xFF], ⟨_, _, .step .start rfl rfl, htext⟩, .inl (.inr rfl), rfl⟩
  have herror : decode flatDecoder none [0x5B, 0x22, 0xFF, 0x22, 0x5D] =
      .error (.undecodable ⟨.start, 0, 0xFF, 1⟩) := decode_eq_undecodable_iff.mpr hbad
  exact ⟨herror, herror ▸ not_isSettled (by simp)⟩

end Catalogue.Library
