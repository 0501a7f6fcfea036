import Mathlib
import Catalogue.Text.Case

/-!
# Runs of the case tables

The tables of case mappings list several thousand letters in a few hundred runs.  What holds for all
letters of a table is shown run by run: two runs are compared by their ends and by their parity
(`CaseRun.isApart`), and the images of a run are a run again (`CaseRun.image`).

Such comparisons, and the mappings of single letters, are evaluated in proofs.  The last part puts
the searches through the tables into a form that is evaluated faster: by the recursor of lists, with
comparisons of natural numbers that need no proofs.
-/

namespace Catalogue.Text

namespace CaseRun

/-- The code points that a run moves. -/
def Lists (run : CaseRun) (n : Nat) : Prop :=
  run.first ≤ n ∧ n ≤ run.last ∧ (n - run.first) % run.step = 0

/-- The images of a run, to be moved back. -/
def image (run : CaseRun) : CaseRun where
  first := (run.first + run.shift).toNat
  last := (run.last + run.shift).toNat
  step := run.step
  shift := -run.shift

/-- Whether all code points of a run are even, or all are odd. -/
def hasParity (run : CaseRun) : Bool :=
  Nat.beq (run.step % 2) 0 || Nat.beq run.first run.last

/-- Whether two runs do not overlap, or interleave as the even and the odd code points. -/
def isApart (run other : CaseRun) : Bool :=
  Nat.blt other.last run.first || Nat.blt run.last other.first ||
    (run.hasParity && other.hasParity && Nat.beq ((run.first + other.first) % 2) 1)

/-- A range of code points that stay where they are. -/
def ofRange (range : Nat × Nat) : CaseRun :=
  ⟨range.1, range.2, 1, 0⟩

variable {run other : CaseRun} {n m : Nat}

/-- A run moves the code points that it lists, all by the same distance. -/
theorem target?_eq_some_iff :
    run.target? n = some m ↔ run.Lists n ∧ m = (n + run.shift).toNat := by
  unfold target? Lists
  split
  · next h => simp [h, eq_comm]
  · next h => simp [h]

theorem target?_eq_none_iff : run.target? n = none ↔ ¬ run.Lists n := by
  unfold target? Lists
  split <;> simp_all

/-- A range lists all code points between its ends. -/
theorem lists_ofRange {range : Nat × Nat} :
    (ofRange range).Lists n ↔ range.1 ≤ n ∧ n ≤ range.2 := by
  simp [Lists, ofRange, Nat.mod_one]

/-- The code points of a run of constant parity differ from its first one by an even number. -/
theorem Lists.even_sub (h : run.Lists n) (hparity : run.hasParity = true) :
    (n - run.first) % 2 = 0 := by
  obtain ⟨hfirst, hlast, hstep⟩ := h
  rcases (Bool.or_eq_true _ _).mp hparity with heven | hsingle
  · have hdvd : 2 ∣ run.step := Nat.dvd_of_mod_eq_zero (Nat.eq_of_beq_eq_true heven)
    exact Nat.mod_eq_zero_of_dvd (hdvd.trans (Nat.dvd_of_mod_eq_zero hstep))
  · have := Nat.eq_of_beq_eq_true hsingle
    omega

/-- Runs that are apart have no code point in common. -/
theorem Lists.not_of_isApart (h : run.Lists n) (hapart : run.isApart other = true) :
    ¬ other.Lists n := by
  intro hother
  obtain ⟨hfirst, hlast, -⟩ := id h
  obtain ⟨hfirst', hlast', -⟩ := id hother
  simp only [isApart, Bool.or_eq_true, Bool.and_eq_true, Nat.blt_eq] at hapart
  rcases hapart with (hbelow | habove) | ⟨⟨hparity, hparity'⟩, hodd⟩
  · omega
  · omega
  · have hsum := Nat.eq_of_beq_eq_true hodd
    have heven := h.even_sub hparity
    have heven' := hother.even_sub hparity'
    omega

/-- The image of a code point lies in the image of its run. -/
theorem Lists.image (h : run.Lists n) (hshift : 0 ≤ run.first + run.shift) :
    run.image.Lists (n + run.shift).toNat := by
  obtain ⟨hfirst, hlast, hstep⟩ := h
  refine ⟨?_, ?_, ?_⟩
  · simp only [CaseRun.image]
    omega
  · simp only [CaseRun.image]
    omega
  · simp only [CaseRun.image]
    rw [show (n + run.shift).toNat - (run.first + run.shift).toNat = n - run.first by omega]
    exact hstep

/-- Whether a run moves a code point. -/
def lists (run : CaseRun) (n : Nat) : Bool :=
  Nat.ble run.first n && Nat.ble n run.last && Nat.beq ((n - run.first) % run.step) 0

/-- The mapping of a run by a test that is evaluated without proofs. -/
theorem target?_eq_ite :
    run.target? n = if run.lists n then some (n + run.shift).toNat else none := by
  simp [target?, lists, and_assoc]

end CaseRun

/-- A code point is in one of the ranges. -/
theorem inRanges_eq_true_iff {ranges : List (Nat × Nat)} {n : Nat} :
    inRanges ranges n = true ↔ ∃ range ∈ ranges, range.1 ≤ n ∧ n ≤ range.2 := by
  simp [inRanges]

/-- What a table moves is moved by one of its runs. -/
theorem exists_lists_of_movedBy?_eq_some {runs : List CaseRun} {c d : Char}
    (h : movedBy? runs c = some d) :
    ∃ run ∈ runs, run.Lists c.toNat ∧ d = Char.ofNat ((c.toNat : Int) + run.shift).toNat := by
  obtain ⟨m, hfound, rfl⟩ := Option.map_eq_some_iff.mp h
  obtain ⟨run, hrun, htarget⟩ := List.exists_of_findSome?_eq_some hfound
  obtain ⟨hlists, rfl⟩ := CaseRun.target?_eq_some_iff.mp htarget
  exact ⟨run, hrun, hlists, rfl⟩

/-- A search for an element, by the recursor. -/
theorem any_eq_rec {α : Type} (p : α → Bool) (l : List α) :
    l.any p = List.rec false (fun a _ found => bif p a then true else found) l := by
  induction l with
  | nil => rfl
  | cons a l ih =>
      rw [List.any_cons, ih]
      cases h : p a <;> simp [h]

/-- A check of all elements, by the recursor. -/
theorem all_eq_rec {α : Type} (p : α → Bool) (l : List α) :
    l.all p = List.rec true (fun a _ rest => bif p a then rest else false) l := by
  induction l with
  | nil => rfl
  | cons a l ih =>
      rw [List.all_cons, ih]
      cases h : p a <;> simp [h]

/-- The first element that is found, by the recursor. -/
theorem find?_eq_rec {α : Type} (p : α → Bool) (l : List α) :
    l.find? p = List.rec none (fun a _ found => bif p a then some a else found) l := by
  induction l with
  | nil => rfl
  | cons a l ih =>
      rw [List.find?_cons, ih]
      cases h : p a <;> simp [h]

/-- The search through ranges, with comparisons of natural numbers. -/
theorem inRanges_eq_any (ranges : List (Nat × Nat)) (n : Nat) :
    inRanges ranges n = ranges.any fun range => Nat.ble range.1 n && Nat.ble n range.2 := by
  unfold inRanges
  congr 1
  funext range
  rw [Bool.eq_iff_iff]
  simp

/-- A table moves a letter by the first of its runs that lists it. -/
theorem movedBy?_eq_find? (runs : List CaseRun) (c : Char) :
    movedBy? runs c =
      (runs.find? (·.lists c.toNat)).map fun run =>
        Char.ofNat ((c.toNat : Int) + run.shift).toNat := by
  unfold movedBy?
  induction runs with
  | nil => rfl
  | cons run runs ih =>
      rw [List.findSome?_cons, List.find?_cons, CaseRun.target?_eq_ite]
      cases run.lists c.toNat
      · exact ih
      · rfl

/-- The entry of a table, with comparisons of natural numbers. -/
theorem lookup_eq_find? {α : Type} (table : List (Nat × α)) (n : Nat) :
    table.lookup n = (table.find? fun entry => Nat.beq n entry.1).map (·.2) := by
  induction table with
  | nil => rfl
  | cons entry table ih =>
      have hsame : (n == entry.1) = Nat.beq n entry.1 := by
        rw [Bool.eq_iff_iff]
        simp
      rw [List.lookup_cons, List.find?_cons, hsame]
      cases Nat.beq n entry.1
      · exact ih
      · rfl

end Catalogue.Text
