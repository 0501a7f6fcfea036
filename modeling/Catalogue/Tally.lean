/-!
# Tallies

A tally counts names in the order in which they are first met.  Ranking lists the names by
descending count; names with equal counts stay in the order of first meeting.  The first names of
the ranking are selected in one pass, without ranking the others.
-/

namespace Catalogue

/-- Names with their numbers of occurrences, in order of first occurrence. -/
abbrev Tally := List (String × Nat)

namespace Tally

/-- Counts one more occurrence of a name. -/
def add : Tally → String → Tally
  | [], name => [(name, 1)]
  | entry :: rest, name =>
    if entry.1 = name then (name, entry.2 + 1) :: rest else entry :: add rest name

/-- Counts a list of names. -/
def ofList (names : List String) : Tally :=
  names.foldl add []

/-- The number of occurrences of a name. -/
def count (tally : Tally) (name : String) : Nat :=
  (tally.lookup name).getD 0

/-- The entries by descending count, ties in order of first occurrence. -/
def ranked (tally : Tally) : Tally :=
  tally.mergeSort fun a b => b.2 ≤ a.2

/-- The entries by name. -/
def byName (tally : Tally) : Tally :=
  tally.mergeSort fun a b => a.1 ≤ b.1

/-- Puts an entry behind those whose count is at least its own. -/
def place : Tally → String × Nat → Tally
  | [], entry => [entry]
  | other :: rest, entry =>
    if entry.2 ≤ other.2 then other :: place rest entry else entry :: other :: rest

/-- The entries with the greatest counts by descending count, ties in order of first occurrence.
One pass selects them and keeps no more than the limit; a limit below one leaves none. -/
def top (tally : Tally) (limit : Int) : Tally :=
  tally.foldl (fun best entry => (best.place entry).take limit.toNat) []

end Tally

end Catalogue
