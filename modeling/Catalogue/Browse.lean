import Catalogue.Page
import Catalogue.Selection

/-!
# Browsing

A browser shows one page of the records that its criteria select.  A change that gives other results
leads back to the first page: another query, format, selection of tags or order.  Switching only the
way tags combine stays on the page.
-/

namespace Catalogue

/-- The criteria and the page of a browser. -/
structure Browser where
  criteria : Criteria := {}
  page : Nat := 1
  deriving DecidableEq, Repr

/-- Why a page of results cannot be shown. -/
inductive ResultsError where
  | query (e : UnknownChoice)
  | pageSize (e : PageSizeError)
  deriving DecidableEq, Repr

/-- What went wrong, in words. -/
def ResultsError.message : ResultsError → String
  | .query e => e.message
  | .pageSize e => e.message

namespace Browser

/-- A browser opened on a query. -/
def ofQuery (query : String) : Browser :=
  { criteria := { query := query } }

/-- Whether two criteria agree on all that keeps the page. -/
def keepsPage (old new : Criteria) : Bool :=
  old.query = new.query && old.format = new.format && old.tags = new.tags && old.sort = new.sort

/-- The browser with other criteria. -/
def withCriteria (b : Browser) (criteria : Criteria) : Browser :=
  ⟨criteria, if keepsPage b.criteria criteria then b.page else 1⟩

/-- Changes some of the criteria. -/
def update (b : Browser) (changes : Changes) : Browser :=
  b.withCriteria (b.criteria.withChanges changes)

/-- Selects a tag, or deselects it if it is selected. -/
def toggleTag (b : Browser) (tag : String) : Browser :=
  b.withCriteria (b.criteria.toggleTag tag)

/-- Drops query, format and tags. -/
def clearFilters (b : Browser) : Browser :=
  b.withCriteria b.criteria.cleared

/-- Moves to a page; numbers below one stand for the first page. -/
def goTo (b : Browser) (page : Int) : Browser :=
  { b with page := (max page 1).toNat }

/-- The page of the selected records. -/
def results (b : Browser) (records : List Record) (size : Int) :
    Except ResultsError (Page Record) :=
  match select records b.criteria with
  | .error e => .error (.query e)
  | .ok selected => (Page.ofList selected b.page size).mapError .pageSize

end Browser

end Catalogue
