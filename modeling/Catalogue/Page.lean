import Catalogue.Number.Binary64
import Catalogue.Text.Digit

/-!
# Pages

A page is a slice of an ordered list.  Pages are numbered from one; pages past the end are empty.
The number of pages is the quotient of the number of items and the page size, computed as a double
and rounded up, so it is exact as long as the quotient is.
-/

namespace Catalogue

/-- One page of a list. -/
structure Page (α : Type) where
  items : List α
  number : Nat
  size : Nat
  totalItems : Nat
  deriving DecidableEq, Repr

/-- A page size below one. -/
structure PageSizeError where
  size : Int
  deriving DecidableEq, Repr

/-- The size that is too small; if it is too long to be written, that. -/
def PageSizeError.message (e : PageSizeError) : String :=
  match Text.integerText? e.size with
  | some size => "page_size must be at least 1, got " ++ size
  | none => Text.unwritableMessage

/-- Why there is no page of a range of numbers. -/
inductive RangeError where
  | size (e : PageSizeError)
  /-- The range has more numbers than 63 bits can count. -/
  | tooLong
  deriving DecidableEq, Repr

/-- What went wrong, in words. -/
def RangeError.message : RangeError → String
  | .size e => e.message
  | .tooLong => "Python int too large to convert to C ssize_t"

namespace Page

variable {α : Type}

/-- The number of items on a page when nothing else is asked for. -/
def defaultSize : Int := 24

/-- The page of a sequence that is known by its length and its slices, each given by the number of
items before it and its greatest length.  Numbers below one stand for the first page. -/
def ofSlices (total : Nat) (slice : Nat → Nat → List α) (number size : Int) :
    Except PageSizeError (Page α) :=
  if size < 1 then
    .error ⟨size⟩
  else
    let number := (max number 1).toNat
    .ok ⟨slice ((number - 1) * size.toNat) size.toNat, number, size.toNat, total⟩

/-- The page of a list. -/
def ofList (items : List α) (number size : Int) : Except PageSizeError (Page α) :=
  ofSlices items.length (fun start length => (items.drop start).take length) number size

/-- The greatest number of items that can be counted. -/
def maxCount : Nat := 0x7FFFFFFFFFFFFFFF

/-- The page of the numbers below a bound. -/
def ofCount (count : Nat) (number size : Int) : Except RangeError (Page Nat) := do
  let slice (start length : Nat) : List Nat := List.range' start (min length (count - start))
  let page ← (ofSlices count slice number size).mapError .size
  if count ≤ maxCount then return page else throw .tooLong

/-- The number of pages: the quotient rounded to a double, then up to an integer.  No list is so
long that the quotient leaves the range of doubles. -/
def totalPages (p : Page α) : Nat :=
  Binary64.ceilQuanta (Binary64.roundQuotient (p.totalItems * Binary64.unit) p.size)

/-- Whether a page follows. -/
def hasNext (p : Page α) : Bool :=
  p.number < p.totalPages

/-- Whether a page precedes. -/
def hasPrevious (p : Page α) : Bool :=
  1 < p.number

/-- The position of the first item, counted from one; zero on an empty page. -/
def start (p : Page α) : Nat :=
  if p.items.isEmpty then 0 else (p.number - 1) * p.size + 1

/-- The position of the last item, counted from one; zero on an empty page. -/
def stop (p : Page α) : Nat :=
  if p.items.isEmpty then 0 else p.start + p.items.length - 1

/-- The number of results and the place of the page among them. -/
def footer (p : Page α) : String :=
  if p.totalItems = 0 then
    "0 results"
  else
    toString p.totalItems ++ " results, showing " ++ toString p.start ++ "-" ++ toString p.stop ++
      " (page " ++ toString p.number ++ " of " ++ toString p.totalPages ++ ")"

end Page

end Catalogue
