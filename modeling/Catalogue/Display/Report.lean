import Catalogue.Display.Table
import Catalogue.Page
import Catalogue.Statistics
import Catalogue.TagColor

/-!
# Reports

How results are shown: tags in their colours, a page of records as a table, counted values as a
table, and the statistics of a library with a cloud of its most frequent tags.
-/

namespace Catalogue

namespace Report

/-- The first items of a list up to a limit; a negative limit leaves out as many at the end. -/
def upTo {α : Type} (limit : Int) (items : List α) : List α :=
  if 0 ≤ limit then items.take limit.toNat else items.take (items.length - limit.natAbs)

/-- The style of a tag. -/
def tagStyle (tag : String) : String :=
  (TagColor.ofTag tag).style

/-- Tags in their colours, trimmed, blank ones left out.  With a limit, the number of tags that are
not shown follows. -/
def tags (names : List String) (limit : Option Int) : StyledText :=
  let clean := (names.map Text.trim).filter (· ≠ "")
  let shown :=
    match limit with
    | some limit => upTo limit clean
    | none => clean
  let hidden : Int :=
    match limit with
    | some limit => clean.length - limit
    | none => 0
  let text := StyledText.appendAll " " {} (shown.map fun tag => (tag, tagStyle tag))
  if 0 < hidden then text.append (" +" ++ toString hidden) (some "dim") else text

/-- The number of tags of a record that a table shows. -/
def tagsPerRow : Int := 3

/-- The columns of a table of records. -/
def recordColumns : List Column := [
  { header := "#", justify := .right, style := "dim", width := some 5 },
  { header := "Title", style := "none" },
  { header := "Authors", style := "none" },
  { header := "Formats", style := "magenta", width := some 12 },
  { header := "Tags" },
  { header := "Added", style := "yellow", width := some 10 }]

/-- The row of a record with its position among the results. -/
def recordRow (position : Nat) (r : Record) : List Cell := [
  .markup (toString position),
  .markup r.title,
  .markup r.authors,
  .markup (Text.join ", " r.normalFormats),
  .text (tags r.tags (some tagsPerRow)),
  .markup ((r.addedAt.map (·.dateText)).getD "")]

/-- The rows of records from a position on. -/
def recordRows (position : Nat) : List Record → List (List Cell)
  | [] => []
  | r :: rest => recordRow position r :: recordRows (position + 1) rest

/-- A page of records as a table. -/
def records (page : Page Record) (title : Option String) : Table where
  title := title
  columns := recordColumns
  rows :=
    if page.items.isEmpty then
      [[.markup "", .markup "[dim]No books match the current filters[/dim]", .markup "", .markup "",
        .markup "", .markup ""]]
    else
      recordRows page.start page.items

/-- Counted values as a table, their names in the colours of tags if asked for. -/
def counts (values : List (String × Int)) (title label : String) (colored : Bool) : Table where
  title := some title
  columns := [{ header := label }, { header := "Count", justify := .right, style := "green" }]
  rows :=
    if values.isEmpty then
      [[.markup "[dim]None[/dim]", .markup ""]]
    else
      values.map fun (name, count) =>
        [if colored then .text (.ofText name (tagStyle name)) else .markup name,
          .markup (toString count)]

/-- The counts of a tally. -/
def tallied (tally : Tally) : List (String × Int) :=
  tally.map fun (name, count) => (name, count)

/-- The least weight that is drawn bold. -/
def boldWeight : Binary64 := .ofRatio 16 10

/-- The style of a tag in the cloud. -/
def cloudStyle (tag : WeightedTag) : String :=
  if boldWeight.le tag.weight then "bold " ++ tagStyle tag.name else tagStyle tag.name

/-- The most frequent tags next to each other. -/
def cloud (weighted : List WeightedTag) : StyledText :=
  StyledText.appendAll "  " {} (weighted.map fun tag => (tag.name, cloudStyle tag))

/-- The totals of a library. -/
def summary (s : Statistics) : Table where
  title := some "Library Overview"
  columns := [
    { header := "Metric", style := "bold" },
    { header := "Value", justify := .right, style := "cyan" }]
  rows := [
    [.markup "Total books", .markup (toString s.totalBooks)],
    [.markup "Total authors", .markup (toString s.uniqueAuthors)],
    [.markup "Languages", .markup (toString s.topLanguages.length)],
    [.markup "File formats", .markup (toString s.topFormats.length)]]

/-- The statistics of a library as tables and a tag cloud. -/
def statistics (s : Statistics) : List Renderable := [
  .table (summary s),
  .table (counts (tallied s.topAuthors) "Top Authors" "Author" false),
  .table (counts (tallied s.topLanguages) "Languages" "Language" false),
  .table (counts (tallied s.topFormats) "Formats" "Format" false),
  .text (.ofText "Popular Tags" "bold"),
  .text (cloud s.topTags)]

end Report

end Catalogue
