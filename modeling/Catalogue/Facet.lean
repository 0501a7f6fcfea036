import Catalogue.Record
import Catalogue.Tally

/-!
# Facets

What a library can be narrowed by: the tags with their numbers of occurrences, and the formats with
the numbers of books available in them.  A tag counts as often as it occurs; a format counts once
for every book.
-/

namespace Catalogue

/-- The facets of a library. -/
structure Facets where
  /-- Trimmed tags by descending number of occurrences, ties in order of first occurrence. -/
  tagCounts : Tally
  /-- Format codes in normal form, by name, with the numbers of books. -/
  formatCounts : Tally
  deriving DecidableEq, Repr

/-- The different formats of a record in normal form, blank ones left out. -/
def Record.formatCodes (r : Record) : List String :=
  (r.normalFormats.filter (· ≠ "")).eraseDups

namespace Facets

/-- The facets of a list of records. -/
def ofRecords (records : List Record) : Facets where
  tagCounts := (Tally.ofList (records.flatMap (·.cleanTags))).ranked
  formatCounts := (Tally.ofList (records.flatMap (·.formatCodes))).byName

/-- The format codes in order. -/
def formats (f : Facets) : List String :=
  f.formatCounts.map (·.1)

/-- The tags in which a text occurs, whatever its case; a blank text occurs in all. -/
def searchTags (f : Facets) (text : String) : Tally :=
  let needle := Text.lower (Text.trim text)
  if needle = "" then
    f.tagCounts
  else
    f.tagCounts.filter fun entry => Text.occursIn needle (Text.lower entry.1)

/-- The number of occurrences of a tag, blanks around it ignored. -/
def tagCount (f : Facets) (tag : String) : Nat :=
  f.tagCounts.count (Text.trim tag)

end Facets

end Catalogue
