import Catalogue.Collation
import Catalogue.Criteria
import Catalogue.Query.Match

/-!
# Selections

The records that criteria select, in the order they ask for.  Three filters narrow the records one
after the other, by query, by format and by tags, and a stable sort orders what is left.  Sorting
from the newest date on is a stable sort too: records of the same date keep their order.
-/

namespace Catalogue

namespace Selection

/-- The records that match a query; a blank query is not looked at. -/
def byQuery (records : List Record) (query : String) : Except UnknownChoice (List Record) :=
  if Text.isBlankText query then
    .ok records
  else
    (CompiledQuery.ofText query).map fun q => q.filter records

/-- The records available in a format. -/
def byFormat (records : List Record) (format : String) : List Record :=
  if format = allFormats then records else records.filter (·.hasFormat format)

/-- Whether a record carries all, or at least one, of some trimmed tags. -/
def carries (logic : TagLogic) (selected : List String) (r : Record) : Bool :=
  let tags := r.tags.map Text.trim
  match logic with
  | .all => selected.all (tags.contains ·)
  | .any => selected.any (tags.contains ·)

/-- The records that carry selected tags; without a selection all of them. -/
def byTags (records : List Record) (tags : List String) (logic : TagLogic) : List Record :=
  if tags.isEmpty then records else records.filter (carries logic (tags.map Text.trim))

/-- The text that a record is sorted by when titles are sorted. -/
def titleText (r : Record) : String :=
  if r.titleSort = "" then r.title else r.titleSort

/-- The text that a record is sorted by when authors are sorted. -/
def authorText (r : Record) : String :=
  if r.authorSort = "" then r.authors else r.authorSort

/-- What a record is sorted by when dates are sorted. -/
def dateKey (r : Record) : Binary64 :=
  Timestamp.sortKey r.addedAt

/-- Whether a record may stand before another in an order. -/
def before (order : SortOrder) (a b : Record) : Bool :=
  match order with
  | .dateNewest => (dateKey b).le (dateKey a)
  | .dateOldest => (dateKey a).le (dateKey b)
  | .titleAsc => (CollationKey.ofText (titleText a)).le (CollationKey.ofText (titleText b))
  | .authorAsc => (CollationKey.ofText (authorText a)).le (CollationKey.ofText (authorText b))

/-- The records in an order; those that are equal in it keep theirs. -/
def sorted (records : List Record) (order : SortOrder) : List Record :=
  records.mergeSort (before order)

/-- What is left after each of the three filters. -/
structure Narrowed where
  afterQuery : List Record
  afterFormat : List Record
  afterTags : List Record

/-- Applies the three filters. -/
def narrow (records : List Record) (c : Criteria) : Except UnknownChoice Narrowed :=
  (byQuery records c.query).map fun matching =>
    let available := byFormat matching c.format
    ⟨matching, available, byTags available c.tags c.tagLogic⟩

end Selection

/-- The records that criteria select, in their order. -/
def select (records : List Record) (c : Criteria) : Except UnknownChoice (List Record) :=
  (Selection.narrow records c).map fun narrowed => Selection.sorted narrowed.afterTags c.sort

end Catalogue
