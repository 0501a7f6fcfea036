import Mathlib

/-!
# Results that may be errors

When a computation that can fail has a result: every part of it has one, and the result is made from
these.
-/

namespace Catalogue

variable {ε ε' α β : Type}

/-- Telling an error in other words leaves results alone. -/
theorem mapError_eq_ok_iff {result : Except ε α} {f : ε → ε'} {a : α} :
    result.mapError f = .ok a ↔ result = .ok a := by
  cases result <;> simp [Except.mapError]

theorem mapError_eq_error_iff {result : Except ε α} {f : ε → ε'} {e' : ε'} :
    result.mapError f = .error e' ↔ ∃ e, result = .error e ∧ f e = e' := by
  cases result <;> simp [Except.mapError]

/-- Mapping a result succeeds exactly when there is one. -/
theorem map_eq_ok_iff {result : Except ε α} {f : α → β} {b : β} :
    result.map f = .ok b ↔ ∃ a, result = .ok a ∧ f a = b := by
  cases result <;> simp [Except.map]

/-- Mapping a result keeps its failure. -/
theorem map_eq_error_iff {result : Except ε α} {f : α → β} {e : ε} :
    result.map f = .error e ↔ result = .error e := by
  cases result <;> simp [Except.map]

/-- Two computations that are the same when mapped fail alike, or both have a result. -/
theorem map_eq_map_iff {first second : Except ε α} {f : α → β} :
    first.map f = second.map f ↔
      (∃ e, first = .error e ∧ second = .error e) ∨
        ∃ a b, (first = .ok a ∧ second = .ok b) ∧ f a = f b := by
  cases first <;> cases second <;> simp [Except.map, eq_comm]

/-- Two steps have a result if the first one has, and the second one has with it. -/
theorem bind_eq_ok_iff {result : Except ε α} {f : α → Except ε β} {b : β} :
    (result >>= f) = .ok b ↔ ∃ a, result = .ok a ∧ f a = .ok b := by
  cases result <;> simp [bind, Except.bind]

/-- All items have results if each one has. -/
theorem mapM_eq_ok_iff {f : α → Except ε β} {items : List α} {results : List β} :
    items.mapM f = .ok results ↔ List.Forall₂ (fun item result => f item = .ok result)
      items results := by
  induction items generalizing results with
  | nil =>
      rw [List.mapM_nil, List.forall₂_nil_left_iff, eq_comm]
      exact ⟨Except.ok.inj, congrArg _⟩
  | cons item items ih =>
      rw [List.mapM_cons, bind_eq_ok_iff]
      constructor
      · rintro ⟨first, hfirst, hrest⟩
        obtain ⟨rest, hitems, hsame⟩ := bind_eq_ok_iff.mp hrest
        obtain rfl : first :: rest = results := Except.ok.inj hsame
        exact .cons hfirst (ih.mp hitems)
      · intro hall
        obtain ⟨first, rest, hfirst, hrest, rfl⟩ := List.forall₂_cons_left_iff.mp hall
        exact ⟨first, hfirst, bind_eq_ok_iff.mpr ⟨rest, ih.mpr hrest, rfl⟩⟩

end Catalogue
