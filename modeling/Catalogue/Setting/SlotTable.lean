/-!
# Slot tables

A set has no order of its own; its members are shown in the order of the slots of a table.  The
table has a power of two of slots, more than twice as many as members unless there are few.  A
member goes to the slot that the last bits of its number name.  If that one is taken, it goes to one
of the nine after it, and if these are taken too, the search goes on at a slot into which more bits
of the number are mixed.
-/

namespace Catalogue.SlotTable

/-- The number of slots for some members. -/
def size (members : Nat) : Nat :=
  if members ≤ 4 then 8 else Nat.pow 2 ((2 * members).log2 + 1)

/-- How many slots after the first one are tried in a row. -/
def runLength : Nat := 9

/-- The first slot of a run that is not taken.  Near the end of the table a run is one slot. -/
def free? (size : Nat) (taken : List Nat) (first : Nat) : Option Nat :=
  let count := if first + runLength < size then runLength + 1 else 1
  ((List.range count).map (first + ·)).find? (!taken.contains ·)

/-- The slot that is found from a first one on; `bits` are those of the number that have not been
mixed in.  Every run takes one unit of fuel. -/
def search (size : Nat) (taken : List Nat) (fuel first bits : Nat) : Nat :=
  match free? size taken first, fuel with
  | some slot, _ => slot
  | none, 0 => first
  | none, fuel + 1 =>
    let bits := bits / 32
    search size taken fuel ((first * 5 + 1 + bits) % size) bits

/-- The bits of a number, as a word of 64 bits. -/
def word (n : Int) : Nat :=
  (n % Nat.pow 2 64).toNat

/-- Puts a member with its number into a table: the slots that are taken, with what they hold. -/
def insert {α : Type} (size : Nat) (table : List (Nat × α)) (entry : Int × α) : List (Nat × α) :=
  let bits := word entry.1
  (search size (table.map (·.1)) (size + 16) (bits % size) bits, entry.2) :: table

/-- Some members with their numbers, in the order of their slots. -/
def arrange {α : Type} (members : List (Int × α)) : List α :=
  let table := members.foldl (insert (size members.length)) []
  (table.mergeSort fun a b => a.1 ≤ b.1).map (·.2)

end Catalogue.SlotTable
