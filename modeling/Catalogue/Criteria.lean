import Catalogue.Choice
import Catalogue.Text.Blank

/-!
# Criteria

The criteria of one view of a library: a query, a format, selected tags with the way they combine,
and a sort order.  Criteria are values; every change gives new ones.  Tags are trimmed when they are
selected, in the order of selection.
-/

namespace Catalogue

/-- How selected tags combine. -/
inductive TagLogic where
  /-- A record carries all of them. -/
  | all
  /-- A record carries at least one of them. -/
  | any
  deriving DecidableEq, Repr

/-- How results are ordered. -/
inductive SortOrder where
  | dateNewest
  | dateOldest
  | titleAsc
  | authorAsc
  deriving DecidableEq, Repr

/-- The ways to combine tags by name. -/
def TagLogic.names : List (String × TagLogic) :=
  [("AND", .all), ("OR", .any)]

/-- The name of a way to combine tags. -/
def TagLogic.name : TagLogic → String
  | .all => "AND"
  | .any => "OR"

/-- The way to combine tags that a setting names. -/
def TagLogic.ofSetting (v : Setting) : Except UnknownChoice TagLogic :=
  Choice.tagLogic.ofSetting names v

/-- The sort orders by name. -/
def SortOrder.names : List (String × SortOrder) :=
  [("date_newest", .dateNewest), ("date_oldest", .dateOldest), ("title_asc", .titleAsc),
    ("author_asc", .authorAsc)]

/-- The name of a sort order. -/
def SortOrder.name : SortOrder → String
  | .dateNewest => "date_newest"
  | .dateOldest => "date_oldest"
  | .titleAsc => "title_asc"
  | .authorAsc => "author_asc"

/-- The sort order that a setting names. -/
def SortOrder.ofSetting (v : Setting) : Except UnknownChoice SortOrder :=
  Choice.sortOrder.ofSetting names v

/-- The format that every record has. -/
def allFormats : String := "all"

/-- What a view of a library selects, and how it orders the results. -/
structure Criteria where
  query : String := ""
  format : String := allFormats
  tags : List String := []
  tagLogic : TagLogic := .all
  sort : SortOrder := .dateNewest
  deriving DecidableEq, Repr

/-- New values for some of the criteria. -/
structure Changes where
  query : Option String := none
  format : Option String := none
  tags : Option (List String) := none
  tagLogic : Option TagLogic := none
  sort : Option SortOrder := none
  deriving DecidableEq, Repr

namespace Criteria

/-- The criteria with some values replaced; new tags are trimmed. -/
def withChanges (c : Criteria) (changes : Changes) : Criteria where
  query := changes.query.getD c.query
  format := changes.format.getD c.format
  tags := (changes.tags.map (·.map Text.trim)).getD c.tags
  tagLogic := changes.tagLogic.getD c.tagLogic
  sort := changes.sort.getD c.sort

/-- Selects a tag, or deselects it if it is selected. -/
def toggleTag (c : Criteria) (tag : String) : Criteria :=
  let tag := Text.trim tag
  if c.tags.contains tag then
    { c with tags := c.tags.filter (· ≠ tag) }
  else
    { c with tags := c.tags ++ [tag] }

/-- Drops query, format and tags and keeps the way tags combine and the order. -/
def cleared (c : Criteria) : Criteria :=
  { c with query := "", format := allFormats, tags := [] }

/-- Whether anything narrows the view. -/
def isFiltered (c : Criteria) : Bool :=
  !Text.isBlankText c.query || c.format ≠ allFormats || !c.tags.isEmpty

end Criteria

end Catalogue
