import Catalogue.Proofs.Library.Loading

/-!
# Documents with the same content

A field of a book that is null, or that no record has, says nothing: neither the check for a title
nor the import of the record looks at it (`Fields.Pads.sameBook`), and it does not change the path
to a fault elsewhere.  The object around an array of books says nothing either.  So documents that
differ by such fields and objects only have the same outcome, as libraries and as rejections
(`Library.ofJson_rewritten`).
-/

namespace Catalogue

/-- A book has one field more that says nothing: a new one that is null, or one that no record
has. -/
inductive Fields.Pads : Fields → Fields → Prop
  | null {before after : Fields} {name : String} (new : name ∉ (before ++ after).map (·.1)) :
      Pads (before ++ after) (before ++ (name, .null) :: after)
  | unknown {before after : Fields} {name : String} (v : Json)
      (unasked : ∀ rule ∈ Record.rules, rule.name ≠ name) :
      Pads (before ++ after) (before ++ (name, v) :: after)

/-- What is under no name is not found. -/
theorem Fields.get?_eq_none_of_notMem {name : String} {fields : Fields}
    (h : name ∉ fields.map (·.1)) : Fields.get? name fields = none := by
  rw [Fields.get?, List.lookup_eq_none_iff]
  intro field hfield
  simpa using (ne_of_mem_of_not_mem (List.mem_map_of_mem hfield) h).symm

/-- A name has the first value that is paired with it. -/
theorem Fields.get?_append_cons_self {name : String} {before : Fields}
    (h : name ∉ before.map (·.1)) (v : Json) (after : Fields) :
    Fields.get? name (before ++ (name, v) :: after) = some v := by
  rw [Fields.get?_append, Fields.get?_eq_none_of_notMem h, Option.none_or]
  simp [Fields.get?, List.lookup]

/-- A field makes no difference to other names. -/
theorem Fields.get?_append_cons_of_ne {name other : String} (h : other ≠ name) (before : Fields)
    (v : Json) (after : Fields) :
    Fields.get? name (before ++ (other, v) :: after) = Fields.get? name (before ++ after) := by
  rw [← List.singleton_append, Fields.get?_append, Fields.get?_append, Fields.get?_append,
    Fields.get?_singleton, if_neg h.symm, Option.none_or]

/-- A field that no record has makes no difference to what is read. -/
theorem Record.Draft.readAll_unknown (path : JsonPath) {name : String}
    (h : ∀ rule ∈ rules, rule.name ≠ name) (v : Json) (before after : Fields) (d : Draft) :
    d.readAll path (before ++ (name, v) :: after) = d.readAll path (before ++ after) := by
  induction before generalizing d with
  | nil =>
      rw [List.nil_append, readAll, d.read_unknown path h]
      rfl
  | cons field before ih =>
      rw [List.cons_append, List.cons_append, readAll, readAll]
      cases d.read path field with
      | error fault => rfl
      | ok d' => exact ih d'

/-- Two books that are taken for each other: both have a title or neither has, and they give the
same record or the same fault. -/
structure Library.SameBook (book book' : Json) : Prop where
  titled : isTitled book = isTitled book'
  record : ∀ path, Record.ofJsonAt path (dropNulls book) = Record.ofJsonAt path (dropNulls book')

theorem Library.SameBook.refl (book : Json) : SameBook book book :=
  ⟨rfl, fun _ => rfl⟩

namespace Fields.Pads

variable {fields fields' : Fields}

/-- The check for a title does not look at a field that says nothing. -/
theorem isTitled_eq (h : Pads fields fields') :
    Library.isTitled (.obj fields) = Library.isTitled (.obj fields') := by
  cases h with
  | @null before after name new =>
      rw [List.map_append, List.mem_append, not_or] at new
      by_cases hname : name = "title"
      · subst hname
        -- There is no title, and null is none either.
        have hnone : get? "title" (before ++ after) = none := by
          rw [get?_append, get?_eq_none_of_notMem new.1, get?_eq_none_of_notMem new.2]
          rfl
        simp only [Library.isTitled, hnone, get?_append_cons_self new.1]
      · simp only [Library.isTitled, get?_append_cons_of_ne hname]
  | @unknown before after name v unasked =>
      have hname : name ≠ "title" := (unasked ⟨"title", .text, none⟩ (by simp [Record.rules])).symm
      simp only [Library.isTitled, get?_append_cons_of_ne hname]

/-- Neither does the import of the record. -/
theorem ofJsonAt_eq (h : Pads fields fields') (path : JsonPath) :
    Record.ofJsonAt path (Library.dropNulls (.obj fields)) =
      Record.ofJsonAt path (Library.dropNulls (.obj fields')) := by
  cases h with
  | null => simp [Library.dropNulls, Json.isNull]
  | @unknown before after name v unasked =>
      by_cases hnull : v.isNull = true
      · simp [Library.dropNulls, hnull]
      · simp [Library.dropNulls, hnull, Record.ofJsonAt,
          Record.Draft.readAll_unknown path unasked]

/-- **Fields that say nothing** leave a book what it is. -/
theorem sameBook (h : Pads fields fields') : Library.SameBook (.obj fields) (.obj fields') :=
  ⟨h.isTitled_eq, h.ofJsonAt_eq⟩

end Fields.Pads

namespace Library

/-- Books that are taken for each other one by one give the same records, or the same fault at the
same place. -/
theorem ofItems_congr {books books' : List Json} (h : List.Forall₂ SameBook books books')
    (index : Nat) :
    Record.ofItems index (books.map dropNulls) = Record.ofItems index (books'.map dropNulls) := by
  induction h generalizing index with
  | nil => rfl
  | cons hbook _ ih =>
      rw [List.map_cons, List.map_cons, Record.ofItems, Record.ofItems, hbook.record, ih]

/-- Documents whose books are taken for each other describe the same records, or are no libraries
for the same reason. -/
theorem recordsOfJson_congr {v v' : Json} {books books' : List Json} (hv : HasBooks v books)
    (hv' : HasBooks v' books') (h : List.Forall₂ SameBook books books') :
    recordsOfJson v = recordsOfJson v' := by
  rw [recordsOfJson, recordsOfJson, books?_eq_some_iff.mpr hv, books?_eq_some_iff.mpr hv']
  cases h with
  | nil => rfl
  | cons hfirst hrest =>
      have hrecords := ofItems_congr (.cons hfirst hrest) 0
      simp only [hfirst.titled, hrecords]

/-- One step from a document to another one with the same content: an object around an array of
books is taken away, or a field that says nothing is added to a book, whether the books are in an
object or not. -/
inductive Rewrites : Json → Json → Prop
  | bare {fields : Fields} {books : List Json}
      (found : Fields.get? "books" fields = some (.arr books)) : Rewrites (.obj fields) (.arr books)
  | book {earlier later : List Json} {fields fields' : Fields} (pads : Fields.Pads fields fields') :
      Rewrites (.arr (earlier ++ .obj fields :: later)) (.arr (earlier ++ .obj fields' :: later))
  | bookInside {before after : Fields} {earlier later : List Json} {fields fields' : Fields}
      (first : "books" ∉ before.map (·.1)) (pads : Fields.Pads fields fields') :
      Rewrites (.obj (before ++ ("books", .arr (earlier ++ .obj fields :: later)) :: after))
        (.obj (before ++ ("books", .arr (earlier ++ .obj fields' :: later)) :: after))

theorem sameBooks_refl (books : List Json) : List.Forall₂ SameBook books books :=
  List.forall₂_same.mpr fun book _ => .refl book

/-- Among other books, a book and one that is taken for it. -/
theorem sameBook_among {book book' : Json} (h : SameBook book book') (earlier later : List Json) :
    List.Forall₂ SameBook (earlier ++ book :: later) (earlier ++ book' :: later) :=
  List.rel_append (sameBooks_refl earlier) (.cons h (sameBooks_refl later))

/-- A step changes neither the records of a document nor the reason why it has none. -/
theorem Rewrites.recordsOfJson_eq {v v' : Json} (h : Rewrites v v') :
    recordsOfJson v = recordsOfJson v' := by
  cases h with
  | bare found =>
      exact recordsOfJson_congr (Or.inr ⟨_, rfl, found⟩) (Or.inl rfl)
        (sameBooks_refl _)
  | book pads =>
      exact recordsOfJson_congr (Or.inl rfl) (Or.inl rfl) (sameBook_among pads.sameBook _ _)
  | bookInside first pads =>
      exact recordsOfJson_congr (Or.inr ⟨_, rfl, Fields.get?_append_cons_self first _ _⟩)
        (Or.inr ⟨_, rfl, Fields.get?_append_cons_self first _ _⟩)
        (sameBook_among pads.sameBook _ _)

end Library

end Catalogue
