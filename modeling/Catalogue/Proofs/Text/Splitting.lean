import Mathlib
import Catalogue.Text.Split

/-!
# Splitting and joining

Splitting a text at a separator is the library's splitting of lists.  So the parts of a text hold no
separator (`notMem_of_mem_split`), a text without separators is one part (`split_of_notMem`), and
the parts of two texts with a separator between them are those of the one and of the other
(`split_append`).  Joined texts are the first one and the others behind a separator each
(`toList_join`).
-/

namespace Catalogue.Text

section Splitting

variable {separator : Char}

theorem splitChars_eq_splitOn (separator : Char) (cs : List Char) :
    splitChars separator cs = cs.splitOn separator := by
  induction cs with
  | nil => rfl
  | cons c cs ih =>
      have hne := List.splitOn_ne_nil separator cs
      rw [splitChars, List.splitOn_cons_eq_if_modifyHead, ih]
      by_cases hc : c = separator
      · rw [if_pos hc, if_pos (beq_iff_eq.mpr hc)]
      · rw [if_neg hc, if_neg (mt beq_iff_eq.mp hc)]
        cases hparts : cs.splitOn separator with
        | nil => exact absurd hparts hne
        | cons part parts => rfl

/-- No part of a split list holds the separator. -/
theorem notMem_of_mem_splitOn {cs part : List Char} (h : part ∈ cs.splitOn separator) :
    separator ∉ part := by
  induction cs generalizing part with
  | nil => simp_all
  | cons c cs ih =>
      rw [List.splitOn_cons_eq_if_modifyHead] at h
      split at h
      · rcases List.mem_cons.mp h with rfl | hrest
        · exact List.not_mem_nil
        · exact ih hrest
      · next hc =>
        obtain ⟨first, rest, hparts⟩ :=
          List.exists_cons_of_ne_nil (List.splitOn_ne_nil separator cs)
        rw [hparts] at h ih
        rcases List.mem_cons.mp h with rfl | hrest
        · have hne : separator ≠ c := fun heq => hc (beq_iff_eq.mpr heq.symm)
          exact List.not_mem_cons_of_ne_of_not_mem hne (ih List.mem_cons_self)
        · exact ih (List.mem_cons_of_mem first hrest)

/-- **Parts** of a text hold no separator. -/
theorem notMem_of_mem_split {s part : String} (h : part ∈ split separator s) :
    separator ∉ part.toList := by
  rw [split, splitChars_eq_splitOn] at h
  obtain ⟨cs, hcs, rfl⟩ := List.mem_map.mp h
  rw [String.toList_ofList]
  exact notMem_of_mem_splitOn hcs

/-- A text without separators is one part. -/
theorem split_of_notMem {s : String} (h : separator ∉ s.toList) : split separator s = [s] := by
  rw [split, splitChars_eq_splitOn, List.splitOn_eq_singleton h, List.map_singleton,
    String.ofList_toList]

/-- **Separators** part the parts on their left from those on their right. -/
theorem split_append (separator : Char) (front back : String) :
    split separator (front ++ String.singleton separator ++ back) =
      split separator front ++ split separator back := by
  simp only [split, splitChars_eq_splitOn, String.toList_append, String.toList_singleton,
    List.append_assoc, List.singleton_append, List.splitOn_append_cons_self, List.map_append]

end Splitting

/-- Joined texts are the first one and the others behind a separator each. -/
theorem toList_join (separator first : String) (rest : List String) :
    (join separator (first :: rest)).toList =
      first.toList ++ rest.flatMap fun s => separator.toList ++ s.toList := by
  rw [join]
  induction rest generalizing first with
  | nil => simp
  | cons s rest ih => simp [ih, String.toList_append]

/-- The first text is joined to what the others are joined to. -/
theorem join_cons_cons (separator first second : String) (rest : List String) :
    join separator (first :: second :: rest) =
      first ++ separator ++ join separator (second :: rest) := by
  rw [← String.toList_inj, toList_join, String.toList_append, String.toList_append, toList_join,
    List.flatMap_cons, List.append_assoc, List.append_assoc]

/-- A text is not longer than one that it begins. -/
theorem length_le_join (separator s : String) (rest : List String) :
    s.length ≤ (join separator (s :: rest)).length := by
  rw [← String.length_toList, ← String.length_toList, toList_join, List.length_append]
  exact Nat.le_add_right _ _

theorem join_ne_empty {first : String} (h : first ≠ "") (separator : String)
    (rest : List String) : join separator (first :: rest) ≠ "" := by
  intro hempty
  have hlength := length_le_join separator first rest
  rw [hempty] at hlength
  exact h (String.length_eq_zero_iff.mp (Nat.le_zero.mp hlength))

end Catalogue.Text
