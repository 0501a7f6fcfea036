import Catalogue.Record
import Catalogue.Tally

/-!
# Statistics

Totals and rankings of a whole library.  The most frequent tags have weights by which a tag cloud
draws them: the most frequent one has the greatest weight, and a weight grows with the quotient of a
tag's count and the greatest count.  Weights are computed in doubles, every operation rounded once.
-/

namespace Catalogue

/-- Why a quotient of counts has no weight. -/
inductive WeightError where
  /-- The greatest count is zero. -/
  | divisionByZero
  /-- The quotient is beyond the range of doubles. -/
  | tooLarge
  deriving DecidableEq, Repr

/-- What went wrong, in words. -/
def WeightError.message : WeightError → String
  | .divisionByZero => "division by zero"
  | .tooLarge => "integer division result too large for a float"

/-- A tag with its count and its weight in a tag cloud. -/
structure WeightedTag where
  name : String
  count : Int
  weight : Binary64
  deriving DecidableEq, Repr

namespace Weight

/-- The least weight of a tag. -/
def least : Binary64 := .ofRatio 85 100

/-- The difference between the greatest and the least weight. -/
def range : Binary64 := .ofRatio 3 2

/-- The weight of a count among counts of which another one is the first. -/
def ofCount (count first : Int) : Except WeightError Binary64 :=
  if first = 0 then
    .error .divisionByZero
  else
    let q := Binary64.quotient count first
    match q.quanta? with
    | some _ => .ok (least.add (q.mul range))
    | none => .error .tooLarge

/-- The tags with their weights relative to a first count. -/
def relativeTo (first : Int) : List (String × Int) → Except WeightError (List WeightedTag)
  | [] => .ok []
  | (name, count) :: rest =>
    match ofCount count first with
    | .error e => .error e
    | .ok weight => (relativeTo first rest).map (⟨name, count, weight⟩ :: ·)

/-- The tags with their weights relative to the first one. -/
def ofTags (tags : List (String × Int)) : Except WeightError (List WeightedTag) :=
  match tags with
  | [] => .ok []
  | (_, first) :: _ => relativeTo first tags

end Weight

/-- Totals and rankings of a library. -/
structure Statistics where
  totalBooks : Nat
  uniqueAuthors : Nat
  topLanguages : Tally
  topFormats : Tally
  topAuthors : Tally
  topTags : List WeightedTag
  deriving DecidableEq, Repr

namespace Statistics

/-- The length of the ranking of languages. -/
def languageLimit : Int := 5

/-- The length of the ranking of formats. -/
def formatLimit : Int := 5

/-- The length of the ranking of authors. -/
def authorLimit : Int := 10

/-- The length of the ranking of tags. -/
def tagLimit : Int := 60

/-- The statistics of a list of records. -/
def ofRecords (records : List Record) : Except WeightError Statistics :=
  let authors := Tally.ofList (records.flatMap (·.authorList))
  let languages := Tally.ofList (records.flatMap (·.languageList))
  let formats := Tally.ofList (records.flatMap (·.normalFormats))
  let tags := Tally.ofList (records.flatMap (·.cleanTags))
  let counts := (tags.top tagLimit).map fun entry => (entry.1, (entry.2 : Int))
  (Weight.ofTags counts).map fun topTags =>
    { totalBooks := records.length
      uniqueAuthors := authors.length
      topLanguages := languages.top languageLimit
      topFormats := formats.top formatLimit
      topAuthors := authors.top authorLimit
      topTags := topTags }

/-- A ranking as a JSON array. -/
def rankingJson (tally : Tally) : Json :=
  .arr (tally.map fun entry => .obj [("name", .str entry.1), ("count", .int entry.2)])

/-- The statistics as a JSON object. -/
def toJson (s : Statistics) : Json :=
  .obj [
    ("total_books", .int s.totalBooks),
    ("unique_author_count", .int s.uniqueAuthors),
    ("top_languages", rankingJson s.topLanguages),
    ("top_formats", rankingJson s.topFormats),
    ("top_authors", rankingJson s.topAuthors),
    ("top_tags", .arr (s.topTags.map fun tag =>
      .obj [("name", .str tag.name), ("count", .int tag.count), ("weight", .float tag.weight)]))]

end Statistics

end Catalogue
