import Catalogue.Record
import Catalogue.Text.Split

/-!
# Records from JSON

A record is read from a JSON object field by field in document order.  Every field has one kind of
value and no other is converted to it: an integer is no text, a number with a fraction no integer.
Unknown fields are skipped.  Only after all fields have been checked, the identifier and then the
title are required.  The first fault is reported, with the path to the value that has it.
-/

namespace Catalogue

/-- One step from a value to a part of it. -/
inductive PathStep where
  | item (index : Nat)
  | field (name : String)
  deriving DecidableEq, Repr

/-- The text of a step. -/
def PathStep.text : PathStep → String
  | .item index => "[" ++ toString index ++ "]"
  | .field name => "." ++ name

/-- The way from a document to a part of it. -/
abbrev JsonPath := List PathStep

/-- Names the place of a fault; the document as a whole needs no naming. -/
def JsonPath.suffix (path : JsonPath) : String :=
  match path with
  | [] => ""
  | _ => " - at `$" ++ String.join (path.map PathStep.text) ++ "`"

/-- Why a JSON value is no record. -/
inductive RecordFault where
  /-- A value of the wrong kind. -/
  | mismatch (expected found : Json.Kind) (path : JsonPath)
  /-- A required field that the object at the path does not have. -/
  | missing (field : String) (path : JsonPath)
  deriving DecidableEq, Repr

/-- What was expected, what was found, and where. -/
def RecordFault.message : RecordFault → String
  | .mismatch expected found path =>
    "Expected `" ++ expected.name ++ "`, got `" ++ found.name ++ "`" ++ path.suffix
  | .missing field path => "Object missing required field `" ++ field ++ "`" ++ path.suffix

namespace Record

/-- An integer. -/
def expectInt (path : JsonPath) : Json → Except RecordFault Int
  | .int n => .ok n
  | v => .error (.mismatch .int v.kind path)

/-- A text. -/
def expectText (path : JsonPath) : Json → Except RecordFault String
  | .str s => .ok s
  | v => .error (.mismatch .str v.kind path)

/-- Texts that are the items of an array from an index on. -/
def expectItems (path : JsonPath) (index : Nat) : List Json → Except RecordFault (List String)
  | [] => .ok []
  | item :: rest => do
    let s ← expectText (path ++ [.item index]) item
    return s :: (← expectItems path (index + 1) rest)

/-- An array of texts. -/
def expectTexts (path : JsonPath) : Json → Except RecordFault (List String)
  | .arr items => expectItems path 0 items
  | v => .error (.mismatch .array v.kind path)

/-- A record whose required fields may still be missing. -/
structure Draft where
  id : Option Int := none
  title : Option String := none
  titleSort : String := ""
  authors : String := ""
  authorSort : String := ""
  publisher : String := ""
  timestamp : String := ""
  tags : List String := []
  formats : List String := []
  languages : String := ""

/-- Reads one field of the object at a path. -/
def Draft.read (path : JsonPath) (d : Draft) (field : String × Json) : Except RecordFault Draft :=
  let here := path ++ [.field field.1]
  match field.1 with
  | "id" => (expectInt here field.2).map fun n => { d with id := some n }
  | "title" => (expectText here field.2).map fun s => { d with title := some s }
  | "title_sort" => (expectText here field.2).map fun s => { d with titleSort := s }
  | "authors" => (expectText here field.2).map fun s => { d with authors := s }
  | "author_sort" => (expectText here field.2).map fun s => { d with authorSort := s }
  | "publisher" => (expectText here field.2).map fun s => { d with publisher := s }
  | "timestamp" => (expectText here field.2).map fun s => { d with timestamp := s }
  | "tags" => (expectTexts here field.2).map fun ss => { d with tags := ss }
  | "formats" => (expectTexts here field.2).map fun ss => { d with formats := ss }
  | "languages" => (expectText here field.2).map fun s => { d with languages := s }
  | _ => .ok d

/-- Reads fields in document order. -/
def Draft.readAll (path : JsonPath) (d : Draft) : Fields → Except RecordFault Draft
  | [] => .ok d
  | field :: rest =>
    match d.read path field with
    | .ok d => d.readAll path rest
    | .error e => .error e

/-- The record, when its required fields are there. -/
def Draft.finish (path : JsonPath) (d : Draft) : Except RecordFault Record :=
  match d.id, d.title with
  | none, _ => .error (.missing "id" path)
  | some _, none => .error (.missing "title" path)
  | some id, some title =>
    .ok ⟨id, title, d.titleSort, d.authors, d.authorSort, d.publisher, d.timestamp, d.tags,
      d.formats, d.languages⟩

/-- The record that a JSON value at a path describes. -/
def ofJsonAt (path : JsonPath) : Json → Except RecordFault Record
  | .obj fields =>
    match Draft.readAll path {} fields with
    | .ok d => d.finish path
    | .error e => .error e
  | v => .error (.mismatch .object v.kind path)

/-- The record that a JSON document describes. -/
def ofJson (v : Json) : Except RecordFault Record :=
  ofJsonAt [] v

/-- The records that the items of an array describe, from an index on. -/
def ofItems (index : Nat) : List Json → Except RecordFault (List Record)
  | [] => .ok []
  | item :: rest =>
    match ofJsonAt [.item index] item with
    | .error e => .error e
    | .ok r => (ofItems (index + 1) rest).map (r :: ·)

end Record

end Catalogue
