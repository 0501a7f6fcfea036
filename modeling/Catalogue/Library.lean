import Catalogue.FileTree
import Catalogue.Json.Reader
import Catalogue.Record.Import
import Catalogue.RecordSet

/-!
# Libraries

A library document is a JSON array of books or an object with such an array under `books`.  Loading
goes through five checks, each with its own rejection: the file can be read, the document is JSON,
its root has one of the two shapes, its first book has a title, and every book describes a record.
Null fields of a book count as absent.  A last check refuses repeated identifiers.  What is said
about a document that is no JSON, and how deeply one may nest, is up to the decoder.
-/

namespace Catalogue

namespace Library

/-- Why a document is no library. -/
inductive Reason where
  | unreadable (fault : FileFault)
  | malformed (complaint : String)
  | wrongShape
  | untitled
  | badRecord (fault : RecordFault)
  | repeatedId (id : Int)
  deriving DecidableEq, Repr

/-- A rejected document and where it came from, if that is known. -/
structure Rejection where
  source : Option String
  reason : Reason
  deriving DecidableEq, Repr

/-- A reason in words. -/
def Reason.message : Reason → String
  | .unreadable fault => "Failed to read file: " ++ fault.message
  | .malformed complaint => "Invalid JSON: " ++ complaint
  | .wrongShape => "Invalid format: expected an array or an object with a 'books' array"
  | .untitled => "Data doesn't look like book records (missing title)"
  | .badRecord fault => "Invalid book record: " ++ fault.message
  | .repeatedId id => "Duplicate record id: " ++ toString id

/-- The reason in words, after the source when one is named. -/
def Rejection.message (r : Rejection) : String :=
  match r.source with
  | some source => if source = "" then r.reason.message else source ++ ": " ++ r.reason.message
  | none => r.reason.message

/-- Why no library could be loaded. -/
inductive LoadError where
  | rejected (r : Rejection)
  /-- A text of the document is no UTF-8. -/
  | undecodable (e : Text.Utf8Error)
  /-- The document nests arrays and objects too deeply. -/
  | tooDeep
  | zeroInPath
  deriving DecidableEq, Repr

/-- What went wrong, in words. -/
def LoadError.message : LoadError → String
  | .rejected r => r.message
  | .zeroInPath => zeroMessage
  | .undecodable e => e.message
  | .tooDeep => "maximum recursion depth exceeded while deserializing an object"

/-- The books of a document. -/
def books? : Json → Option (List Json)
  | .arr items => some items
  | .obj fields =>
    match Fields.get? "books" fields with
    | some (.arr items) => some items
    | _ => none
  | _ => none

/-- Whether a value is an object with a title that is a text and not empty. -/
def isTitled : Json → Bool
  | .obj fields =>
    match Fields.get? "title" fields with
    | some (.str s) => s ≠ ""
    | _ => false
  | _ => false

/-- A book without its null fields. -/
def dropNulls : Json → Json
  | .obj fields => .obj (fields.filter fun field => !field.2.isNull)
  | v => v

/-- The records of a document, repeated identifiers included. -/
def recordsOfJson (v : Json) : Except Reason (List Record) :=
  match books? v with
  | none => .error .wrongShape
  | some books =>
    match books with
    | first :: _ =>
      if isTitled first then
        (Record.ofItems 0 (books.map dropNulls)).mapError .badRecord
      else
        .error .untitled
    | [] => .ok []

/-- The record set of a list of records.  A repeated identifier is reported without a source. -/
def ofRecords (rs : List Record) : Except Rejection RecordSet :=
  (RecordSet.ofList rs).mapError fun id => ⟨none, .repeatedId id⟩

/-- The record set of a document. -/
def ofJson (source : Option String) (v : Json) : Except Rejection RecordSet :=
  match recordsOfJson v with
  | .error reason => .error ⟨source, reason⟩
  | .ok rs => ofRecords rs

/-- The records of a document given as bytes, repeated identifiers included. -/
def readRecords (decoder : Json.Decoder) (source : Option String) (bytes : List UInt8) :
    Except LoadError (List Record) :=
  match Json.read decoder.maxDepth bytes with
  | .error .malformed => .error (.rejected ⟨source, .malformed (decoder.complaint bytes)⟩)
  | .error (.undecodable e) => .error (.undecodable e)
  | .error .tooDeep => .error .tooDeep
  | .ok v => (recordsOfJson v).mapError fun reason => .rejected ⟨source, reason⟩

/-- The record set of a document given as bytes. -/
def decode (decoder : Json.Decoder) (source : Option String) (bytes : List UInt8) :
    Except LoadError RecordSet :=
  match readRecords decoder source bytes with
  | .error e => .error e
  | .ok rs => (ofRecords rs).mapError .rejected

/-- The records of a file, repeated identifiers included.  The path is the source. -/
def readFile (decoder : Json.Decoder) (files : FileSystem) (path : FilePath) :
    Except LoadError (List Record) :=
  match files.read path with
  | .error (.fault fault) => .error (.rejected ⟨some path.text, .unreadable fault⟩)
  | .error .zeroInPath => .error .zeroInPath
  | .ok bytes => readRecords decoder (some path.text) bytes

/-- The record set of a file. -/
def load (decoder : Json.Decoder) (files : FileSystem) (path : FilePath) :
    Except LoadError RecordSet :=
  match readFile decoder files path with
  | .error e => .error e
  | .ok rs => (ofRecords rs).mapError .rejected

end Library

end Catalogue
