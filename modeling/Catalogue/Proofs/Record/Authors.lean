import Mathlib
import Catalogue.Proofs.Text.Splitting
import Catalogue.Proofs.Text.Trimming
import Catalogue.Record

/-!
# Names of authors

The authors of a book are one text, in which ampersands join their names.  What is read out of such
a text are names (`isAuthorName_of_mem`): not empty, with no blanks around them, and without
ampersands.  A name is read as itself, also between blanks (`splitAuthors_name`), and an ampersand
parts what is read on its left from what is read on its right (`splitAuthors_ampersand`).  So names
are read back when they are joined, and joining what was read gives a text of the same authors
(`splitAuthors_canonical`).
-/

namespace Catalogue

/-- The name of one author in a list of authors. -/
structure IsAuthorName (name : String) : Prop where
  ne_empty : name ≠ ""
  /-- No blank surrounds it. -/
  trimmed : Text.IsTrimmed name.toList
  /-- It is the name of one author. -/
  single : '&' ∉ name.toList

instance (name : String) : Decidable (IsAuthorName name) :=
  decidable_of_iff (name ≠ "" ∧ Text.IsTrimmed name.toList ∧ '&' ∉ name.toList)
    ⟨fun ⟨hne, htrimmed, hsingle⟩ => ⟨hne, htrimmed, hsingle⟩,
      fun h => ⟨h.ne_empty, h.trimmed, h.single⟩⟩

/-- The canonical text of a list of authors. -/
def joinAuthors (names : List String) : String :=
  Text.join " & " names

/-- **What is read** as an author is a name. -/
theorem isAuthorName_of_mem {s name : String} (h : name ∈ splitAuthors s) : IsAuthorName name := by
  obtain ⟨htrimmed, hne⟩ := List.mem_filter.mp h
  obtain ⟨part, hpart, rfl⟩ := List.mem_map.mp htrimmed
  refine ⟨of_decide_eq_true hne, ?_, fun hmem => ?_⟩
  · rw [Text.trim, String.toList_ofList]
    exact Text.isTrimmed_trimChars part.toList
  · exact Text.notMem_of_mem_split hpart (Text.mem_of_mem_trim hmem)

/-- A blank is no ampersand. -/
theorem ampersand_notMem_of_blank {s : String} (h : Text.isBlankText s = true) :
    '&' ∉ s.toList := by
  intro hmem
  exact absurd (List.all_eq_true.mp h '&' hmem) (by decide)

/-- Nothing is read from blanks. -/
theorem splitAuthors_blank {s : String} (h : Text.isBlankText s = true) : splitAuthors s = [] := by
  rw [splitAuthors, Text.split_of_notMem (ampersand_notMem_of_blank h), List.map_singleton,
    Text.trim_eq_empty_iff.mpr h]
  rfl

/-- **A name between blanks** is read as that name. -/
theorem splitAuthors_name {name front back : String} (h : IsAuthorName name)
    (hfront : Text.isBlankText front = true) (hback : Text.isBlankText back = true) :
    splitAuthors (front ++ name ++ back) = [name] := by
  have hnone : '&' ∉ (front ++ name ++ back).toList := by
    rw [String.toList_append, String.toList_append, List.mem_append, List.mem_append]
    rintro ((hmem | hmem) | hmem)
    · exact ampersand_notMem_of_blank hfront hmem
    · exact h.single hmem
    · exact ampersand_notMem_of_blank hback hmem
  have htrim : Text.trim name = name := by
    rw [Text.trim, h.trimmed.trimChars_eq, String.ofList_toList]
  rw [splitAuthors, Text.split_of_notMem hnone, List.map_singleton, Text.trim_append hfront hback,
    htrim]
  exact List.filter_cons_of_pos (decide_eq_true h.ne_empty)

/-- **Ampersands** part the authors on their left from those on their right. -/
theorem splitAuthors_ampersand (front back : String) :
    splitAuthors (front ++ "&" ++ back) = splitAuthors front ++ splitAuthors back := by
  have hparts : Text.split '&' (front ++ "&" ++ back) =
      Text.split '&' front ++ Text.split '&' back := Text.split_append '&' front back
  rw [splitAuthors, hparts, List.map_append, List.filter_append, splitAuthors, splitAuthors]

/-- Behind a blank, joined names are read back. -/
theorem splitAuthors_blank_joinAuthors {front : String} (hfront : Text.isBlankText front = true)
    {names : List String} (h : ∀ name ∈ names, IsAuthorName name) :
    splitAuthors (front ++ joinAuthors names) = names := by
  induction names generalizing front with
  | nil =>
      have hnone : front ++ joinAuthors [] = front := String.append_empty
      rw [hnone, splitAuthors_blank hfront]
  | cons name names ih =>
      obtain ⟨hname, hnames⟩ := List.forall_mem_cons.mp h
      cases names with
      | nil =>
          have hread : splitAuthors (front ++ name ++ "") = [name] :=
            splitAuthors_name hname hfront rfl
          rwa [String.append_empty] at hread
      | cons next names =>
          -- The separator is cut at its ampersand; its blanks go to the names beside it.
          have hcut : front ++ joinAuthors (name :: next :: names) =
              front ++ name ++ " " ++ "&" ++ (" " ++ joinAuthors (next :: names)) := by
            have hseparator : " & " = " " ++ "&" ++ " " := rfl
            rw [joinAuthors, joinAuthors, Text.join_cons_cons, hseparator]
            simp only [String.append_assoc]
          rw [hcut, splitAuthors_ampersand, splitAuthors_name hname hfront rfl, ih rfl hnames]
          rfl

/-- **Authors** have a canonical form.  Every author that is read out of a text is a name, names
that are joined are read back, and so joining the authors of a text keeps them. -/
theorem splitAuthors_canonical (s : String) :
    (∀ name ∈ splitAuthors s, IsAuthorName name) ∧
      (∀ names : List String, (∀ name ∈ names, IsAuthorName name) →
        splitAuthors (joinAuthors names) = names) ∧
      splitAuthors (joinAuthors (splitAuthors s)) = splitAuthors s := by
  have hnames : ∀ name ∈ splitAuthors s, IsAuthorName name := fun _ => isAuthorName_of_mem
  have hread : ∀ names : List String, (∀ name ∈ names, IsAuthorName name) →
      splitAuthors (joinAuthors names) = names := by
    intro names hnames
    have hback : splitAuthors ("" ++ joinAuthors names) = names :=
      splitAuthors_blank_joinAuthors rfl hnames
    rwa [String.empty_append] at hback
  exact ⟨hnames, hread, hread _ hnames⟩

/-- Two ampersands stand side by side, and a space that does not break the line is a blank. -/
theorem splitAuthors_canonical_doubled :
    (∀ name ∈ ["Ann Lee", "Bo Kim"], IsAuthorName name) ∧
      splitAuthors (joinAuthors ["Ann Lee", "Bo Kim"]) = ["Ann Lee", "Bo Kim"] ∧
      splitAuthors "&\u00a0Ann Lee && Bo Kim " = ["Ann Lee", "Bo Kim"] ∧
      splitAuthors (joinAuthors (splitAuthors "&\u00a0Ann Lee && Bo Kim ")) =
        splitAuthors "&\u00a0Ann Lee && Bo Kim " := by
  have hnames : ∀ name ∈ ["Ann Lee", "Bo Kim"], IsAuthorName name := by decide
  have hauthors : splitAuthors "&\u00a0Ann Lee && Bo Kim " = ["Ann Lee", "Bo Kim"] := by
    decide +kernel
  obtain ⟨-, hread, hagain⟩ := splitAuthors_canonical "&\u00a0Ann Lee && Bo Kim "
  exact ⟨hnames, hread _ hnames, hauthors, hagain⟩

end Catalogue
