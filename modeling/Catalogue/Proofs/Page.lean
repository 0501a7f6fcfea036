import Catalogue.Display.Report
import Catalogue.Proofs.Number.Rounding

/-!
# Paging through a list

The pages of a list are its slices of one size.  A page that comes after `i` others begins after
`i` times the size, so it has items exactly as long as `i` is less than the length divided by the
size and rounded up (`items_ne_nil_iff`).  The number of pages is computed through a double, and
it is this number for every list of up to 2⁵³ items (`totalPages_after`).  From the two follows
that no item is lost or repeated between pages, and that the positions shown for the items count
through the whole list (`paging`).
-/

namespace Catalogue

/-- The first slices of a list make up the first part of it. -/
theorem flatMap_slices {α : Type} (xs : List α) (size count : Nat) :
    ((List.range count).flatMap fun i => (xs.drop (i * size)).take size) =
      xs.take (count * size) := by
  induction count with
  | zero => simp
  | succ count ih =>
      rw [List.range_succ, List.flatMap_append, ih, Nat.succ_mul, List.take_add]
      simp

/-- The cells of a table in the column with a header. -/
def Table.cellsUnder (t : Table) (header : String) : List Cell :=
  t.rows.filterMap fun row => row[t.columns.findIdx (·.header = header)]?

namespace Report

/-- The first cells of the rows of records count from the position of the first one. -/
theorem filterMap_recordRows (position : Nat) (rs : List Record) :
    ((recordRows position rs).filterMap fun row => row[0]?) =
      (List.range' position rs.length).map fun i => .markup (toString i) := by
  induction rs generalizing position with
  | nil => rfl
  | cons r rs ih =>
      rw [recordRows, List.length_cons, List.range'_succ, List.map_cons, ← ih]
      rfl

/-- The records of a page are numbered from its start on. -/
theorem cellsUnder_records {page : Page Record} (h : page.items ≠ []) (title : Option String) :
    (records page title).cellsUnder "#" =
      (List.range' page.start page.items.length).map fun i => .markup (toString i) := by
  have hcolumn : recordColumns.findIdx (·.header = "#") = 0 := by decide
  have hrows : (records page title).rows = recordRows page.start page.items := by
    simp [records, h]
  have hcolumns : (records page title).columns = recordColumns := rfl
  rw [Table.cellsUnder, hrows, hcolumns, hcolumn, filterMap_recordRows]

end Report

namespace Page

variable {α : Type}

/-- The page that comes after some others. -/
def after (xs : List α) (size before : Nat) : Page α where
  items := (xs.drop (before * size)).take size
  number := before + 1
  size := size
  totalItems := xs.length

/-- Whatever number is asked for, it is a page that comes after some others. -/
theorem ofList_eq_after (xs : List α) (number : Int) {size : Int} (h : 1 ≤ size) :
    ofList xs number size = .ok (after xs size.toNat (number - 1).toNat) := by
  have hsize : ¬ size < 1 := by omega
  have hnumber : (max number 1).toNat = (number - 1).toNat + 1 := by omega
  simp only [ofList, ofSlices, hsize, if_false, hnumber, after, Nat.add_sub_cancel]

@[simp] theorem length_items_after (xs : List α) (size before : Nat) :
    (after xs size before).items.length = min size (xs.length - before * size) := by
  rw [after, List.length_take, List.length_drop]

/-- The first position on a page, if it has any. -/
theorem start_after {xs : List α} {size before : Nat} (h : (after xs size before).items ≠ []) :
    (after xs size before).start = before * size + 1 := by
  simp only [start, List.isEmpty_iff, h, if_false]
  rfl

/-- The last position on a page, if it has any. -/
theorem stop_after {xs : List α} {size before : Nat} (h : (after xs size before).items ≠ []) :
    (after xs size before).stop = before * size + (after xs size before).items.length := by
  have hstart := start_after h
  simp only [stop, List.isEmpty_iff, h, if_false, hstart]
  omega

section

variable {xs : List α} {size : Nat}

theorem lt_ceilDiv_iff (hsize : 0 < size) {m : Nat} :
    m < xs.length ⌈/⌉ size ↔ m * size < xs.length := by
  rw [← Nat.not_le, ceilDiv_le_iff_le_mul hsize, Nat.not_le, Nat.mul_comm]

/-- A page has items if fewer pages stand before it than there are. -/
theorem items_ne_nil_iff (hsize : 0 < size) {before : Nat} :
    (after xs size before).items ≠ [] ↔ before < xs.length ⌈/⌉ size := by
  rw [lt_ceilDiv_iff hsize, ← List.length_pos_iff, length_items_after]
  omega

/-- The number of pages is the length divided by the size and rounded up. -/
theorem totalPages_after (hsize : 0 < size) (hlength : xs.length ≤ 2 ^ 53)
    (hsmall : size < 2 * Binary64.unit) (before : Nat) :
    (after xs size before).totalPages = xs.length ⌈/⌉ size :=
  Binary64.ceilQuanta_roundQuotient hlength hsize hsmall

end

/-- The first pages, in order. -/
def firstPages (pages : Int → Page α) (n : Nat) : List (Page α) :=
  (List.range n).map fun i => pages (i + 1 : Nat)

theorem firstPages_succ (pages : Int → Page α) (n : Nat) :
    firstPages pages (n + 1) = firstPages pages n ++ [pages (n + 1 : Nat)] := by
  rw [firstPages, List.range_succ, List.map_append]
  rfl

/-- The pages of a list by their numbers: how many there are, and what is on them. -/
structure IsPaging (xs : List α) (size : Int) (pages : Int → Page α) (count : Nat) : Prop where
  /-- Every number that is asked for has a page. -/
  paged : ∀ p, ofList xs p size = .ok (pages p)
  /-- Each page tells how many there are. -/
  total : ∀ p, (pages p).totalPages = count
  /-- Together the pages have the items of the list, in order. -/
  items : (firstPages pages count).flatMap (·.items) = xs
  /-- All pages but the last one are full. -/
  full : ∀ p : Int, 1 ≤ p → p < count → (pages p).items.length = size
  /-- The last page has items. -/
  last : 1 ≤ count → 1 ≤ (pages count).items.length ∧ (pages count).items.length ≤ size
  /-- After the last page all pages are empty. -/
  beyond : ∀ p : Int, count < p → (pages p).items = []
  /-- A page follows exactly if the next page has items. -/
  hasNext : ∀ p, 1 ≤ p → ((pages p).hasNext = true ↔ (pages (p + 1)).items ≠ [])
  /-- The first position on a page follows the items of the pages before it. -/
  start : ∀ n : Nat, (pages (n + 1 : Nat)).items ≠ [] →
    (pages (n + 1 : Nat)).start = ((firstPages pages n).flatMap (·.items)).length + 1
  /-- The positions on a page are as many as its items. -/
  stop : ∀ p, (pages p).items ≠ [] →
    ((pages p).stop : Int) - (pages p).start + 1 = (pages p).items.length

/-- The first pages have the first items. -/
theorem flatMap_firstPages_after (xs : List α) (size n : Nat) :
    (firstPages (fun p => after xs size (p - 1).toNat) n).flatMap (·.items) =
      xs.take (n * size) := by
  have hnumber : ∀ i : Nat, (((i + 1 : Nat) : Int) - 1).toNat = i := by omega
  simp only [firstPages, List.flatMap_map, hnumber]
  exact flatMap_slices xs size n

/-- A list of up to 2⁵³ items is paged in any size below 2¹⁰⁰⁰. -/
theorem exists_isPaging (xs : List α) {size : Int} (hpos : 1 ≤ size) (hsize : size < 2 ^ 1000)
    (hlength : xs.length ≤ 2 ^ 53) : ∃ pages count, IsPaging xs size pages count := by
  obtain ⟨n, rfl⟩ := Int.eq_ofNat_of_zero_le (Int.le_of_lt hpos)
  have hn : 0 < n := by omega
  have hsmall : n < 2 * Binary64.unit := by
    have hbound : n < 2 ^ 1000 := by exact_mod_cast hsize
    have := Binary64.le_unit
    omega
  have htotal : ∀ before, (after xs n before).totalPages = xs.length ⌈/⌉ n :=
    totalPages_after hn hlength hsmall
  have hitems : ∀ {before : Nat}, (after xs n before).items ≠ [] ↔ before < xs.length ⌈/⌉ n :=
    items_ne_nil_iff hn
  refine ⟨fun p => after xs n (p - 1).toNat, xs.length ⌈/⌉ n, ?_⟩
  constructor
  case paged =>
    intro p
    exact ofList_eq_after xs p hpos
  case total =>
    intro p
    exact htotal _
  case items =>
    have hcovered : xs.length ≤ (xs.length ⌈/⌉ n) * n := by
      rw [← Nat.not_lt, ← lt_ceilDiv_iff hn]
      exact Nat.lt_irrefl _
    rw [flatMap_firstPages_after, List.take_of_length_le hcovered]
  case full =>
    intro p hp hlast
    have hnext : (p - 1).toNat + 1 < xs.length ⌈/⌉ n := by omega
    rw [lt_ceilDiv_iff hn, Nat.succ_mul] at hnext
    rw [length_items_after]
    omega
  case last =>
    intro hsome
    have hbefore : ((xs.length ⌈/⌉ n : Nat) - 1 : Int).toNat < xs.length ⌈/⌉ n := by omega
    have hnonempty := List.length_pos_iff.mpr (hitems.mpr hbefore)
    rw [length_items_after] at hnonempty ⊢
    omega
  case beyond =>
    intro p hp
    have hover : ¬ (p - 1).toNat < xs.length ⌈/⌉ n := by omega
    rwa [← hitems, not_not] at hover
  case hasNext =>
    intro p hp
    have hnumber : (p + 1 - 1).toNat = (p - 1).toNat + 1 := by omega
    rw [hasNext, htotal, hnumber, hitems, decide_eq_true_eq]
    rfl
  case start =>
    intro i hi
    have hnumber : (((i + 1 : Nat) : Int) - 1).toNat = i := by omega
    simp only [hnumber] at hi ⊢
    rw [flatMap_firstPages_after, start_after hi, List.length_take]
    rw [hitems, lt_ceilDiv_iff hn] at hi
    omega
  case stop =>
    intro p hp
    have hstart := start_after hp
    have hstop := stop_after hp
    omega

variable {xs : List α} {size : Int} {pages : Int → Page α} {count : Nat}

/-- All pages up to the last one have items. -/
theorem IsPaging.items_ne_nil (h : IsPaging xs size pages count) (hpos : 1 ≤ size) {p : Nat}
    (hp : 1 ≤ p) (hcount : p ≤ count) : (pages p).items ≠ [] := by
  rw [← List.length_pos_iff]
  rcases Nat.lt_or_eq_of_le hcount with hlt | rfl
  · have := h.full p (by omega) (by omega)
    omega
  · exact (h.last hp).1

/-- The positions in the tables of the first pages count through their items. -/
theorem IsPaging.cellsUnder_firstPages {rs : List Record} {pages : Int → Page Record}
    (h : IsPaging rs size pages count) (hpos : 1 ≤ size) (title : Option String) {n : Nat}
    (hn : n ≤ count) :
    (firstPages pages n).flatMap (fun page => (Report.records page title).cellsUnder "#") =
      (List.range' 1 ((firstPages pages n).flatMap (·.items)).length).map
        fun i => .markup (toString i) := by
  induction n with
  | zero => rfl
  | succ n ih =>
      have hitems := h.items_ne_nil hpos (p := n + 1) (by omega) hn
      rw [firstPages_succ, List.flatMap_append, List.flatMap_append, ih (by omega),
        List.length_append, ← List.range'_append_1, List.map_append, List.flatMap_singleton,
        List.flatMap_singleton, Report.cellsUnder_records hitems, h.start n hitems, Nat.add_comm 1]

/-- **Paging loses and repeats nothing.**  The pages of a list of up to 2⁵³ items hold its items in
order, and each tells its place among them.  The tables of all pages number the records from one
on. -/
theorem paging {size : Int} (hpos : 1 ≤ size) (hsize : size < 2 ^ 1000) :
    (∀ {α : Type} (xs : List α), xs.length ≤ 2 ^ 53 → ∃ pages count, IsPaging xs size pages count) ∧
      ∀ rs pages count, IsPaging rs size pages count → ∀ title,
        (firstPages pages count).flatMap (fun page => (Report.records page title).cellsUnder "#") =
          (List.range' 1 rs.length).map fun i => .markup (toString i) := by
  refine ⟨fun xs hlength => exists_isPaging xs hpos hsize hlength, fun rs pages count h title => ?_⟩
  rw [h.cellsUnder_firstPages hpos title le_rfl, h.items]

/-- Three books on pages of two. -/
theorem paging_three :
    ((1 : Int) ≤ 2 ∧ (2 : Int) < 2 ^ 1000) ∧
    ∃ pages count,
      IsPaging [({ id := 7, title := "Emma" } : Record), { id := 3, title := "Persuasion" },
        { id := 5, title := "Ulysses" }] 2 pages count ∧
      (firstPages pages count).flatMap (fun page => (Report.records page none).cellsUnder "#") =
        [.markup "1", .markup "2", .markup "3"] := by
  have hsize : (2 : Int) < 2 ^ 1000 := lt_self_pow₀ (by decide) (by decide)
  have hpos : (1 : Int) ≤ 2 := by decide
  have h := paging hpos hsize
  obtain ⟨pages, count, hpages⟩ := h.1 [({ id := 7, title := "Emma" } : Record),
    { id := 3, title := "Persuasion" }, { id := 5, title := "Ulysses" }] (by decide)
  exact ⟨⟨hpos, hsize⟩, pages, count, hpages, h.2 _ pages count hpages none⟩

end Page

end Catalogue
