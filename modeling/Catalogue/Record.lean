import Catalogue.Json.Basic
import Catalogue.Text.Blank
import Catalogue.Text.Case
import Catalogue.Text.Split
import Catalogue.Timestamp.Reader

/-!
# Records

A record describes one book.  Its authors and languages are display texts that list several names;
tags and formats are lists already.  This module holds the record, the lists that are read out of
its texts, and its form as a JSON object.
-/

namespace Catalogue

/-- The description of one book. -/
structure Record where
  id : Int
  title : String
  titleSort : String := ""
  /-- The names of the authors, joined by ampersands. -/
  authors : String := ""
  authorSort : String := ""
  publisher : String := ""
  /-- When the book was added, in ISO 8601. -/
  timestamp : String := ""
  tags : List String := []
  formats : List String := []
  /-- The codes of the languages, joined by commas. -/
  languages : String := ""
  deriving DecidableEq, Repr

/-- The names in a text that joins them by ampersands, trimmed, empty ones left out. -/
def splitAuthors (authors : String) : List String :=
  ((Text.split '&' authors).map Text.trim).filter (· ≠ "")

/-- A format code in the form that is compared and counted. -/
def normalFormat (format : String) : String :=
  Text.lower (Text.trim format)

namespace Record

/-- The names of the authors in display order. -/
def authorList (r : Record) : List String :=
  splitAuthors r.authors

/-- The languages of a record without any. -/
def unknownLanguage : String := "Unknown"

/-- The trimmed language codes, empty ones included; a record without languages has an unknown
one. -/
def languageList (r : Record) : List String :=
  if r.languages = "" then [unknownLanguage] else (Text.split ',' r.languages).map Text.trim

/-- The trimmed tags, empty ones left out. -/
def cleanTags (r : Record) : List String :=
  (r.tags.map Text.trim).filter (· ≠ "")

/-- The format codes in normal form, empty ones included. -/
def normalFormats (r : Record) : List String :=
  r.formats.map normalFormat

/-- When the book was added, if its timestamp can be read. -/
def addedAt (r : Record) : Option Timestamp :=
  Timestamp.read? r.timestamp

/-- Whether the book is available in a format; case and surrounding blanks do not matter. -/
def hasFormat (r : Record) (format : String) : Bool :=
  r.normalFormats.contains (normalFormat format)

/-- The record as a JSON object with all ten fields. -/
def toJson (r : Record) : Json :=
  .obj [
    ("id", .int r.id),
    ("title", .str r.title),
    ("title_sort", .str r.titleSort),
    ("authors", .str r.authors),
    ("author_sort", .str r.authorSort),
    ("publisher", .str r.publisher),
    ("timestamp", .str r.timestamp),
    ("tags", .arr (r.tags.map .str)),
    ("formats", .arr (r.formats.map .str)),
    ("languages", .str r.languages)]

end Record

end Catalogue
