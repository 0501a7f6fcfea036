import Catalogue.CommandLine.Command
import Catalogue.Config
import Catalogue.Page
import Catalogue.Selection

/-!
# Searching from the command line

A search takes its criteria and page size from its switches and, where they are silent, from the
configuration.  Format and tags are trimmed, and the format is put in lower case.
-/

namespace Catalogue.CommandLine

/-- Why a search cannot be made. -/
inductive SearchError where
  /-- The configuration names no way to combine tags or no sort order, or the query no field. -/
  | choice (e : UnknownChoice)
  /-- The page size of the configuration is no integer. -/
  | integer (e : IntegerError)
  | pageSize (e : PageSizeError)
  deriving DecidableEq, Repr

/-- What went wrong, in words. -/
def SearchError.message : SearchError → String
  | .choice e => e.message
  | .integer e => e.message
  | .pageSize e => e.message

/-- What a search looks for, and which page of the results it shows. -/
structure SearchRequest where
  criteria : Criteria
  page : Int
  pageSize : Int
  deriving DecidableEq, Repr

namespace SearchOptions

/-- How tags combine: the configuration may write the name in any case. -/
def tagLogic (o : SearchOptions) (config : Settings) : Except UnknownChoice TagLogic :=
  if o.anyTag then
    .ok .any
  else
    match (Config.value config Config.tagLogicKey (.text TagLogic.all.name)).asText? with
    | some text => TagLogic.ofSetting (.text (Text.upper text))
    | none => .error ⟨none, .tagLogic⟩

/-- The sort order. -/
def sortOrder (o : SearchOptions) (config : Settings) : Except UnknownChoice SortOrder :=
  match o.sort with
  | some order => .ok order
  | none =>
    SortOrder.ofSetting (Config.value config Config.sortKey (.text SortOrder.dateNewest.name))

/-- The criteria. -/
def criteria (o : SearchOptions) (config : Settings) : Except UnknownChoice Criteria := do
  let logic ← o.tagLogic config
  let order ← o.sortOrder config
  return ⟨o.query, Text.lower (Text.trim o.format), o.tags.map Text.trim, logic, order⟩

/-- The page size. -/
def resolvedPageSize (o : SearchOptions) (config : Settings) : Except IntegerError Int :=
  match o.pageSize with
  | some n => .ok n
  | none => (Config.value config Config.pageSizeKey (.scalar (.int Page.defaultSize))).toInt

/-- What the options ask for under a configuration. -/
def request (o : SearchOptions) (config : Settings) : Except SearchError SearchRequest := do
  let criteria ← (o.criteria config).mapError .choice
  let size ← (o.resolvedPageSize config).mapError .integer
  return ⟨criteria, o.page, size⟩

end SearchOptions

namespace SearchRequest

/-- What each filter leaves of the records. -/
def narrow (q : SearchRequest) (records : List Record) : Except SearchError Selection.Narrowed :=
  (Selection.narrow records q.criteria).mapError .choice

/-- The page of the records that all filters leave. -/
def pageOf (q : SearchRequest) (narrowed : Selection.Narrowed) : Except SearchError (Page Record) :=
  (Page.ofList (Selection.sorted narrowed.afterTags q.criteria.sort) q.page q.pageSize).mapError
    .pageSize

/-- The page of results. -/
def results (q : SearchRequest) (records : List Record) : Except SearchError (Page Record) := do
  q.pageOf (← q.narrow records)

end SearchRequest

/-- A page of results as a JSON object. -/
def pageJson (query : String) (page : Page Record) : Json :=
  .obj [
    ("query", .str query),
    ("page", .int page.number),
    ("page_size", .int page.size),
    ("total_items", .int page.totalItems),
    ("total_pages", .int page.totalPages),
    ("items", .arr (page.items.map (·.toJson)))]

end Catalogue.CommandLine
