import Catalogue.Proofs.Query.Grammar
import Catalogue.Proofs.Text.LetterCase

/-!
# Scanning follows the grammar

The scanner finds exactly what the grammar allows.  Each of its functions returns a reading of the
grammar if there is one, and returns nothing only in front of a break.  So the pieces of a text are
the only way to cut it into blank gaps and pieces (`pieces_eq_iff`), and every text has one
(`cut_pieces`).
-/

namespace Catalogue.Query

/-- The letters outside ASCII that the scanner takes for letters of a field name. -/
def foreignLetters : List Char := ['İ', 'ı', 'ſ']

/-- A field name as the scanner accepts it: letter by letter a case variant of the name of a
field. -/
def IsFieldVariant (written : List Char) : Prop :=
  ∃ field : SearchField,
    List.Forall₂ (fun letter c => isVariantOf letter c = true) field.name.toList written

/-- The longest run of characters with a property, and the rest. -/
theorem takeWhile_dropWhile_eq_iff {p : Char → Bool} {text taken rest : List Char} :
    text.takeWhile p = taken ∧ text.dropWhile p = rest ↔
      text = taken ++ rest ∧ (∀ c ∈ taken, p c = true) ∧
        ∀ c, rest.head? = some c → p c = false := by
  constructor
  · rintro ⟨rfl, rfl⟩
    refine ⟨List.takeWhile_append_dropWhile.symm, fun c hc => List.mem_takeWhile_imp hc, ?_⟩
    intro c hc
    have hnot := List.head?_dropWhile_not p text
    simpa [hc] using hnot
  · rintro ⟨rfl, htaken, hrest⟩
    rw [List.takeWhile_append_of_pos htaken, List.dropWhile_append_of_pos htaken]
    cases rest with
    | nil => simp
    | cons c rest => simp [hrest c rfl]

/-- The characters in front of the first mark, and the mark with what follows it. -/
theorem span_ne_mark {mark : Char} {before : List Char} (h : mark ∉ before) (after : List Char) :
    (before ++ mark :: after).takeWhile (· ≠ mark) = before ∧
      (before ++ mark :: after).dropWhile (· ≠ mark) = mark :: after := by
  refine takeWhile_dropWhile_eq_iff.mpr ⟨rfl, fun c hc => ?_, by simp⟩
  exact decide_eq_true (ne_of_mem_of_not_mem hc h)

/-- The first mark splits a text in one way only. -/
theorem split_at_first {mark : Char} {before before' after after' : List Char}
    (hbefore : mark ∉ before) (hbefore' : mark ∉ before')
    (h : before ++ mark :: after = before' ++ mark :: after') :
    before = before' ∧ after = after' := by
  have hleft := span_ne_mark hbefore after
  have hright := span_ne_mark hbefore' after'
  rw [h] at hleft
  exact ⟨hleft.1.symm.trans hright.1, List.tail_eq_of_cons_eq (hleft.2.symm.trans hright.2)⟩

/-- A break in terms of the next character. -/
theorem atBreak_iff_head? {text : List Char} :
    AtBreak text ↔ ∀ c, text.head? = some c → (!Text.isBlank c) = false := by
  cases text <;> simp

/-- Scanning a name and a colon finds case variants of the letters and the colon. -/
theorem splitName?_eq_some_iff {name text written rest : List Char} :
    splitName? name text = some (written, rest) ↔
      text = written ++ ':' :: rest ∧
        List.Forall₂ (fun letter c => isVariantOf letter c = true) name written := by
  induction name generalizing text written with
  | nil =>
      cases text with
      | nil => simp [splitName?]
      | cons c text => grind [splitName?, List.forall₂_nil_left_iff]
  | cons letter name ih =>
      cases text with
      | nil => simp [splitName?]
      | cons c text =>
          simp only [splitName?, List.forall₂_cons_left_iff]
          by_cases hc : isVariantOf letter c = true
          · simp only [hc, if_true, Option.map_eq_some_iff, Prod.exists, Prod.mk.injEq]
            constructor
            · rintro ⟨tail, after, hfound, rfl, rfl⟩
              obtain ⟨rfl, hvariant⟩ := ih.mp hfound
              exact ⟨rfl, c, tail, hc, hvariant, rfl⟩
            · rintro ⟨htext, d, tail, hd, hvariant, rfl⟩
              obtain ⟨rfl, rfl⟩ := List.cons.inj htext
              exact ⟨tail, rest, ih.mpr ⟨rfl, hvariant⟩, rfl, rfl⟩
          · simp only [hc, if_false, reduceCtorEq, false_iff]
            rintro ⟨htext, d, tail, hd, -, rfl⟩
            obtain ⟨rfl, -⟩ := List.cons.inj htext
            exact hc hd

/-- A case variant of a letter has it as its small letter in ASCII, or is a foreign letter. -/
theorem isVariantOf_cases {letter c : Char} (h : isVariantOf letter c = true) :
    c.toLower = letter ∨ c ∈ foreignLetters := by
  simp only [isVariantOf, Bool.or_eq_true, Bool.and_eq_true, decide_eq_true_eq] at h
  rcases h with (hlower | ⟨-, hdotless⟩) | ⟨-, hlong⟩
  · exact Or.inl hlower
  · right
    rcases hdotless with rfl | rfl <;> decide
  · right
    subst hlong
    decide

/-- The name of a field is written in small letters. -/
theorem isLower_of_mem_name {field : SearchField} {letter : Char}
    (h : letter ∈ field.name.toList) : letter.isLower = true := by
  have hall : field.name.toList.all Char.isLower = true := by cases field <;> rfl
  exact List.all_eq_true.mp hall letter h

/-- The characters of a field name as the scanner accepts it. -/
theorem IsFieldVariant.letter {written : List Char} (h : IsFieldVariant written) {c : Char}
    (hc : c ∈ written) : c.isAlpha = true ∨ c ∈ foreignLetters := by
  obtain ⟨field, hvariant⟩ := h
  obtain ⟨i, hi, rfl⟩ := List.mem_iff_getElem.mp hc
  obtain ⟨hlength, hletters⟩ := List.forall₂_iff_get.mp hvariant
  refine (isVariantOf_cases (hletters i (hlength ▸ hi) hi)).imp_left fun hlower => ?_
  have hsmall := isLower_of_mem_name (List.get_mem field.name.toList ⟨i, hlength ▸ hi⟩)
  rw [← hlower, Char.isLower_toLower_eq_isAlpha] at hsmall
  exact hsmall

/-- A character that is no letter is not in a field name. -/
theorem IsFieldVariant.notMem {written : List Char} (h : IsFieldVariant written) {c : Char}
    (halpha : c.isAlpha = false) (hforeign : c ∉ foreignLetters) : c ∉ written := by
  intro hc
  rcases h.letter hc with hletter | hletter
  · simp [halpha] at hletter
  · exact hforeign hletter

/-- A field name holds no colon, so it ends at the first one. -/
theorem IsFieldVariant.colon_notMem {written : List Char} (h : IsFieldVariant written) :
    ':' ∉ written :=
  h.notMem (by decide) (by decide)

/-- A field name holds no blank. -/
theorem IsFieldVariant.blankless {written : List Char} (h : IsFieldVariant written) :
    ∀ c ∈ written, Text.isBlank c = false := by
  intro c hc
  rcases h.letter hc with halpha | hspecial
  · exact Text.isBlank_eq_false_of_isAlpha halpha
  · fin_cases hspecial <;> decide

/-- The names of the fields by the name of each field. -/
theorem mem_names {field : SearchField} : (field.name, field) ∈ SearchField.names := by
  cases field <;> simp [SearchField.names, SearchField.name]

theorem name_of_mem_names {entry : String × SearchField} (h : entry ∈ SearchField.names) :
    entry.1 = entry.2.name := by
  simp only [SearchField.names, List.mem_cons, List.not_mem_nil, or_false] at h
  rcases h with rfl | rfl | rfl | rfl <;> rfl

/-- Scanning a field finds the name in front of the first colon, if it is the name of a field. -/
theorem splitField?_eq_some_iff {text written rest : List Char} :
    splitField? text = some (written, rest) ↔
      IsFieldVariant written ∧ text = written ++ ':' :: rest := by
  constructor
  · intro h
    obtain ⟨entry, hentry, hfound⟩ := List.exists_of_findSome?_eq_some h
    obtain ⟨htext, hvariant⟩ := splitName?_eq_some_iff.mp hfound
    exact ⟨⟨entry.2, name_of_mem_names hentry ▸ hvariant⟩, htext⟩
  · rintro ⟨hwritten, rfl⟩
    obtain ⟨field, hvariant⟩ := hwritten
    have hsome : (splitField? (written ++ ':' :: rest)).isSome := by
      refine List.findSome?_isSome_iff.mpr ⟨(field.name, field), mem_names, ?_⟩
      exact Option.isSome_iff_exists.mpr ⟨_, splitName?_eq_some_iff.mpr ⟨rfl, hvariant⟩⟩
    obtain ⟨⟨name, after⟩, hfound⟩ := Option.isSome_iff_exists.mp hsome
    rw [hfound]
    obtain ⟨entry, hentry, hname⟩ := List.exists_of_findSome?_eq_some hfound
    obtain ⟨htext, hother⟩ := splitName?_eq_some_iff.mp hname
    have hcolon : ':' ∉ written := IsFieldVariant.colon_notMem ⟨field, hvariant⟩
    have hcolon' : ':' ∉ name :=
      IsFieldVariant.colon_notMem ⟨entry.2, name_of_mem_names hentry ▸ hother⟩
    obtain ⟨rfl, rfl⟩ := split_at_first hcolon hcolon' htext
    rfl

/-- Scanning a phrase finds what is between the quote in front and the next one. -/
theorem splitPhrase?_eq_some_iff {text inner rest : List Char} :
    splitPhrase? text = some (inner, rest) ↔
      text = '"' :: (inner ++ '"' :: rest) ∧ inner ≠ [] ∧ '"' ∉ inner := by
  constructor
  · intro h
    cases text with
    | nil => simp [splitPhrase?] at h
    | cons c text =>
        rw [splitPhrase?] at h
        split at h
        · next hc =>
            split at h
            · next head tail quote after htaken hrest =>
                obtain ⟨rfl, rfl⟩ := Prod.mk.inj (Option.some.inj h)
                obtain ⟨htext, hinner, hquote⟩ := takeWhile_dropWhile_eq_iff.mp ⟨htaken, hrest⟩
                have hclosing : quote = '"' := by simpa using hquote quote rfl
                refine ⟨by rw [hc, htext, hclosing], by simp, fun hmem => ?_⟩
                simpa using hinner '"' hmem
            · simp at h
        · simp at h
  · rintro ⟨rfl, hne, hquote⟩
    obtain ⟨c, cs, rfl⟩ := List.exists_cons_of_ne_nil hne
    obtain ⟨htaken, hrest⟩ := span_ne_mark hquote rest
    rw [splitPhrase?, if_pos rfl, htaken, hrest]

/-- A phrase is scanned wherever one can be opened. -/
theorem splitPhrase?_eq_none_iff {text : List Char} :
    splitPhrase? text = none ↔ ¬ OpensPhrase text := by
  rw [← not_iff_not, not_not, ← ne_eq, Option.ne_none_iff_exists']
  simp only [Prod.exists, splitPhrase?_eq_some_iff]
  rfl

/-- Scanning a word finds the characters in front of the next break. -/
theorem splitWord?_eq_some_iff {text word rest : List Char} :
    splitWord? text = some (word, rest) ↔
      text = word ++ rest ∧ word ≠ [] ∧ (∀ c ∈ word, Text.isBlank c = false) ∧ AtBreak rest := by
  have hspan : text.takeWhile (!Text.isBlank ·) = word ∧ text.dropWhile (!Text.isBlank ·) = rest ↔
      text = word ++ rest ∧ (∀ c ∈ word, Text.isBlank c = false) ∧ AtBreak rest := by
    simp only [takeWhile_dropWhile_eq_iff, ← atBreak_iff_head?, Bool.not_eq_true']
  rw [splitWord?]
  split
  · next hnone =>
      rw [hnone] at hspan
      simp only [reduceCtorEq, false_iff]
      rintro ⟨htext, hne, hword, hrest⟩
      exact hne (hspan.mpr ⟨htext, hword, hrest⟩).1.symm
  · next hne =>
      simp only [Option.some.injEq, Prod.mk.injEq, hspan]
      constructor
      · rintro ⟨htext, hword, hrest⟩
        refine ⟨htext, ?_, hword, hrest⟩
        rw [← (hspan.mpr ⟨htext, hword, hrest⟩).1]
        exact hne
      · rintro ⟨htext, -, hword, hrest⟩
        exact ⟨htext, hword, hrest⟩

/-- Scanning a body finds what the grammar reads. -/
theorem splitBody?_eq_some_iff {text rest : List Char} {body : Body} :
    splitBody? text = some (body, rest) ↔ ReadsBody text body rest := by
  rw [splitBody?]
  constructor
  · intro h
    split at h
    · next inner after hphrase =>
        obtain ⟨rfl, rfl⟩ := Prod.mk.inj (Option.some.inj h)
        obtain ⟨rfl, hne, hquote⟩ := splitPhrase?_eq_some_iff.mp hphrase
        exact .phrase hne hquote
    · next hnone =>
        obtain ⟨⟨word, after⟩, hword, hsame⟩ := Option.map_eq_some_iff.mp h
        obtain ⟨rfl, rfl⟩ := Prod.mk.inj hsame
        obtain ⟨rfl, hne, hblank, hbreak⟩ := splitWord?_eq_some_iff.mp hword
        exact .word hne hblank hbreak (splitPhrase?_eq_none_iff.mp hnone)
  · intro h
    cases h with
    | phrase hne hquote => rw [splitPhrase?_eq_some_iff.mpr ⟨rfl, hne, hquote⟩]
    | word hne hblank hbreak hunopened =>
        rw [splitPhrase?_eq_none_iff.mpr hunopened,
          splitWord?_eq_some_iff.mpr ⟨rfl, hne, hblank, hbreak⟩]
        rfl

/-- Only in front of a break there is no body to scan. -/
theorem splitBody?_eq_none_iff {text : List Char} : splitBody? text = none ↔ AtBreak text := by
  constructor
  · intro h
    by_contra hbreak
    cases text with
    | nil => exact hbreak trivial
    | cons c text =>
        have hc : Text.isBlank c = false := by simpa using hbreak
        rw [splitBody?] at h
        split at h
        · simp at h
        · simp [splitWord?, hc] at h
  · intro hbreak
    by_contra h
    obtain ⟨⟨body, rest⟩, hbody⟩ := Option.ne_none_iff_exists'.mp h
    exact (splitBody?_eq_some_iff.mp hbody).not_atBreak hbreak

/-- A field name in front of a body is no break, since it starts with a letter. -/
theorem ReadsField.not_atBreak {names : List Char → Prop} {text rest : List Char}
    {field : Option (List Char)} (h : ReadsField names text field rest)
    (hnames : ∀ name, names name → IsFieldVariant name) (hrest : ¬ AtBreak rest) :
    ¬ AtBreak text := by
  cases h with
  | literal => exact hrest
  | @field name rest named value =>
      cases name with
      | nil => simp [show Text.isBlank ':' = false by decide]
      | cons c name => simp [(hnames _ named).blankless c List.mem_cons_self]

/-- Behind the dash either a field name is read or none is. -/
theorem exists_readsField (names : List Char → Prop) (text : List Char) :
    ∃ field middle, ReadsField names text field middle := by
  by_cases h : ∃ name rest, names name ∧ text = name ++ ':' :: rest ∧ ¬ AtBreak rest
  · obtain ⟨name, rest, hname, rfl, hvalue⟩ := h
    exact ⟨some name, rest, .field hname hvalue⟩
  · refine ⟨none, text, .literal fun name rest hname htext => ?_⟩
    by_contra hvalue
    exact h ⟨name, rest, hname, htext, hvalue⟩

/-- At the front of a text either a dash is read or none is. -/
theorem exists_readsDash (text : List Char) : ∃ dash after, ReadsDash text dash after := by
  by_cases h : ∃ rest, text = '-' :: rest ∧ ¬ AtBreak rest
  · obtain ⟨rest, rfl, hvalue⟩ := h
    exact ⟨true, rest, .dash hvalue⟩
  · refine ⟨false, text, .literal fun rest htext => ?_⟩
    by_contra hvalue
    exact h ⟨rest, htext, hvalue⟩

/-- Behind the dash the scanner takes the field name that the grammar reads, and then a body. -/
theorem splitScoped?_of_readsField {dash : Bool} {text middle : List Char}
    {field : Option (List Char)} (h : ReadsField IsFieldVariant text field middle) :
    splitScoped? dash text =
      (splitBody? middle).map fun (body, rest) => (⟨dash, field, body⟩, rest) := by
  simp only [splitScoped?]
  cases h with
  | field hname hvalue =>
      obtain ⟨found, hbody⟩ := Option.ne_none_iff_exists'.mp (mt splitBody?_eq_none_iff.mp hvalue)
      simp [splitField?_eq_some_iff.mpr ⟨hname, rfl⟩, hbody]
  | literal hbreak =>
      cases hfield : splitField? text with
      | none => simp
      | some found =>
          obtain ⟨hname, htext⟩ := splitField?_eq_some_iff.mp hfield
          simp [splitBody?_eq_none_iff.mpr (hbreak found.1 found.2 hname htext)]

/-- Scanning behind the dash finds what the grammar reads there. -/
theorem splitScoped?_eq_some_iff {dash : Bool} {text rest : List Char} {piece : Piece} :
    splitScoped? dash text = some (piece, rest) ↔
      piece.dash = dash ∧ ∃ middle, ReadsField IsFieldVariant text piece.field middle ∧
        ReadsBody middle piece.body rest := by
  constructor
  · intro h
    obtain ⟨field, middle, hfield⟩ := exists_readsField IsFieldVariant text
    rw [splitScoped?_of_readsField hfield] at h
    obtain ⟨⟨body, after⟩, hbody, hsame⟩ := Option.map_eq_some_iff.mp h
    obtain ⟨rfl, rfl⟩ := Prod.mk.inj hsame
    exact ⟨rfl, middle, hfield, splitBody?_eq_some_iff.mp hbody⟩
  · rintro ⟨rfl, middle, hfield, hbody⟩
    rw [splitScoped?_of_readsField hfield, splitBody?_eq_some_iff.mpr hbody]
    rfl

/-- Only in front of a break there is nothing to scan behind the dash. -/
theorem splitScoped?_eq_none_iff {dash : Bool} {text : List Char} :
    splitScoped? dash text = none ↔ AtBreak text := by
  obtain ⟨field, middle, hfield⟩ := exists_readsField IsFieldVariant text
  rw [splitScoped?_of_readsField hfield, Option.map_eq_none_iff, splitBody?_eq_none_iff]
  constructor
  · intro hbreak
    cases hfield with
    | field hname hvalue => exact absurd hbreak hvalue
    | literal => exact hbreak
  · exact not_imp_not.mp (hfield.not_atBreak fun _ h => h)

/-- At the front of a text the scanner takes the dash that the grammar reads, and then what is
behind it. -/
theorem splitPiece?_of_readsDash {text after : List Char} {dash : Bool}
    (h : ReadsDash text dash after) : splitPiece? text = splitScoped? dash after := by
  cases h with
  | dash hvalue =>
      obtain ⟨found, hfound⟩ : ∃ found, splitScoped? true after = some found :=
        Option.ne_none_iff_exists'.mp (mt splitScoped?_eq_none_iff.mp hvalue)
      simp [splitPiece?, hfound]
  | literal hbreak =>
      cases text with
      | nil => exact (splitScoped?_eq_none_iff.mpr atBreak_nil).symm
      | cons c text =>
          have hnone : (if c = '-' then splitScoped? true text else none) = none := by
            split
            · next hc => exact splitScoped?_eq_none_iff.mpr (hbreak text (by rw [hc]))
            · rfl
          rw [splitPiece?, hnone]

/-- Scanning a piece finds what the grammar reads. -/
theorem splitPiece?_eq_some_iff {text rest : List Char} {piece : Piece} :
    splitPiece? text = some (piece, rest) ↔ ReadsPiece IsFieldVariant text piece rest := by
  obtain ⟨dash, field, body⟩ := piece
  constructor
  · intro h
    obtain ⟨found, after, hdash⟩ := exists_readsDash text
    rw [splitPiece?_of_readsDash hdash] at h
    obtain ⟨rfl, middle, hfield, hbody⟩ := splitScoped?_eq_some_iff.mp h
    exact .piece hdash hfield hbody
  · rintro ⟨hdash, hfield, hbody⟩
    rw [splitPiece?_of_readsDash hdash]
    exact splitScoped?_eq_some_iff.mpr ⟨rfl, _, hfield, hbody⟩

/-- Something is scanned wherever no break is next. -/
theorem exists_splitPiece?_eq_some {text : List Char} (h : ¬ AtBreak text) :
    ∃ piece rest, splitPiece? text = some (piece, rest) := by
  obtain ⟨dash, after, hdash⟩ := exists_readsDash text
  have hafter : ¬ AtBreak after := by
    cases hdash with
    | dash hvalue => exact hvalue
    | literal => exact h
  have hsome : splitScoped? dash after ≠ none := mt splitScoped?_eq_none_iff.mp hafter
  obtain ⟨⟨piece, rest⟩, hpiece⟩ := Option.ne_none_iff_exists'.mp hsome
  exact ⟨piece, rest, (splitPiece?_of_readsDash hdash).trans hpiece⟩

/-- A blank text has no pieces. -/
theorem pieces_of_blank {text : List Char} (h : ∀ c ∈ text, Text.isBlank c = true) :
    pieces text = [] := by
  rw [pieces]
  split
  · rfl
  · next hstart => simp [List.dropWhile_eq_nil_iff.mpr h] at hstart

/-- Where a piece is read no break is next. -/
theorem ReadsPiece.not_atBreak {names : List Char → Prop} {text rest : List Char} {piece : Piece}
    (h : ReadsPiece names text piece rest) (hnames : ∀ name, names name → IsFieldVariant name) :
    ¬ AtBreak text := by
  cases h with
  | piece hdash hfield hbody =>
      cases hdash with
      | dash => simp [show Text.isBlank '-' = false by decide]
      | literal => exact hfield.not_atBreak hnames hbody.not_atBreak

/-- The text behind a gap. -/
theorem dropWhile_gap {gap text : List Char} (hgap : ∀ c ∈ gap, Text.isBlank c = true)
    (htext : ¬ AtBreak text) : (gap ++ text).dropWhile Text.isBlank = text := by
  rw [List.dropWhile_append_of_pos hgap]
  cases text with
  | nil => rfl
  | cons c text => exact List.dropWhile_cons_of_neg htext

/-- The scanner skips a gap, takes the piece behind it and goes on. -/
theorem pieces_of_splitPiece? {text start rest : List Char} {piece : Piece}
    (hstart : text.dropWhile Text.isBlank = start)
    (hpiece : splitPiece? start = some (piece, rest)) :
    pieces text = piece :: pieces rest := by
  rw [pieces]
  split
  · next hnil =>
      rw [← hstart, hnil] at hpiece
      simp [splitPiece?] at hpiece
  · next c more hcons =>
      rw [← hstart, hcons] at hpiece
      split
      · next hnone => simp [hpiece] at hnone
      · next found after hfound =>
          obtain ⟨rfl, rfl⟩ := Prod.mk.inj (Option.some.inj (hpiece.symm.trans hfound))
          rfl

/-- **Scanning is sound.**  The pieces that the scanner finds cut the text as the grammar says. -/
theorem cut_pieces (text : List Char) : Cut IsFieldVariant text (pieces text) := by
  induction text using pieces.induct with
  | case1 text hstart =>
      have hblank := List.dropWhile_eq_nil_iff.mp hstart
      rw [pieces_of_blank hblank]
      exact .gap hblank
  | case2 text c more hstart hnone =>
      have hc := List.head?_dropWhile_not Text.isBlank text
      rw [hstart] at hc
      have hmore : ¬ AtBreak (c :: more) := by simpa using hc
      obtain ⟨piece, rest, hpiece⟩ := exists_splitPiece?_eq_some hmore
      simp [hnone] at hpiece
  | case3 text c more hstart piece rest hpiece ih =>
      have hreads := splitPiece?_eq_some_iff.mp hpiece
      have hgap : ∀ d ∈ text.takeWhile Text.isBlank, Text.isBlank d = true :=
        fun d hd => List.mem_takeWhile_imp hd
      have htext : text = text.takeWhile Text.isBlank ++ (piece.written ++ rest) := by
        rw [← hreads.text_eq, ← hstart, List.takeWhile_append_dropWhile]
      rw [pieces_of_splitPiece? hstart hpiece]
      exact htext ▸ .piece hgap (hreads.text_eq ▸ hreads) ih

/-- A dash is read in one way only. -/
theorem ReadsDash.unique {text rest rest' : List Char} {dash dash' : Bool}
    (h : ReadsDash text dash rest) (h' : ReadsDash text dash' rest') :
    dash = dash' ∧ rest = rest' := by
  cases h with
  | dash hvalue =>
      cases h' with
      | dash => exact ⟨rfl, rfl⟩
      | literal hbreak => exact absurd (hbreak _ rfl) hvalue
  | literal hbreak =>
      cases h' with
      | dash hvalue => exact absurd (hbreak _ rfl) hvalue
      | literal => exact ⟨rfl, rfl⟩

/-- A field is read in one way only, since its name ends at the first colon. -/
theorem ReadsField.unique {names : List Char → Prop} {text rest rest' : List Char}
    {field field' : Option (List Char)} (hnames : ∀ name, names name → IsFieldVariant name)
    (h : ReadsField names text field rest) (h' : ReadsField names text field' rest') :
    field = field' ∧ rest = rest' := by
  cases h with
  | @field name rest hname hvalue =>
      generalize htext : name ++ ':' :: rest = text at h'
      cases h' with
      | field hname' =>
          obtain ⟨rfl, rfl⟩ := split_at_first (hnames _ hname).colon_notMem
            (hnames _ hname').colon_notMem htext
          exact ⟨rfl, rfl⟩
      | literal hbreak => exact absurd (hbreak _ _ hname htext.symm) hvalue
  | literal hbreak =>
      cases h' with
      | field hname' hvalue => exact absurd (hbreak _ _ hname' rfl) hvalue
      | literal => exact ⟨rfl, rfl⟩

/-- A piece is read in one way only. -/
theorem ReadsPiece.unique {names : List Char → Prop} {text rest rest' : List Char}
    {piece piece' : Piece} (hnames : ∀ name, names name → IsFieldVariant name)
    (h : ReadsPiece names text piece rest) (h' : ReadsPiece names text piece' rest') :
    piece = piece' ∧ rest = rest' := by
  obtain ⟨hdash, hfield, hbody⟩ := h
  obtain ⟨hdash', hfield', hbody'⟩ := h'
  obtain ⟨rfl, rfl⟩ := hdash.unique hdash'
  obtain ⟨rfl, rfl⟩ := hfield.unique hnames hfield'
  have hsame := (splitBody?_eq_some_iff.mpr hbody).symm.trans (splitBody?_eq_some_iff.mpr hbody')
  obtain ⟨rfl, rfl⟩ := Prod.mk.inj (Option.some.inj hsame)
  exact ⟨rfl, rfl⟩

/-- **The grammar is unambiguous.**  A text is cut in one way at most. -/
theorem Cut.unique {names : List Char → Prop} {text : List Char} {ps ps' : List Piece}
    (hnames : ∀ name, names name → IsFieldVariant name) (h : Cut names text ps)
    (h' : Cut names text ps') : ps = ps' := by
  induction h generalizing ps' with
  | @gap gap hgap =>
      generalize htext : gap = text at h'
      cases h' with
      | gap => rfl
      | piece hgap' hreads =>
          have hstart := dropWhile_gap hgap' (hreads.not_atBreak hnames)
          rw [← htext, List.dropWhile_eq_nil_iff.mpr hgap] at hstart
          exact absurd (hstart ▸ atBreak_nil) (hreads.not_atBreak hnames)
  | @piece gap rest piece ps hgap hreads more ih =>
      have hstart := dropWhile_gap hgap (hreads.not_atBreak hnames)
      generalize htext : gap ++ (piece.written ++ rest) = text at h' hstart
      cases h' with
      | gap hblank =>
          rw [List.dropWhile_eq_nil_iff.mpr hblank] at hstart
          exact absurd (hstart ▸ atBreak_nil) (hreads.not_atBreak hnames)
      | piece hgap' hreads' more' =>
          rw [dropWhile_gap hgap' (hreads'.not_atBreak hnames)] at hstart
          obtain ⟨rfl, rfl⟩ := hreads.unique hnames (hstart ▸ hreads')
          rw [ih more']

/-- The first pieces of a text, `n` of them at most.  Unlike `pieces` this computes by unfolding. -/
def piecesWithin : Nat → List Char → List Piece
  | 0, _ => []
  | n + 1, text =>
    match splitPiece? (text.dropWhile Text.isBlank) with
    | none => []
    | some (piece, rest) => piece :: piecesWithin n rest

/-- A text has no more pieces than characters. -/
theorem pieces_eq_piecesWithin {n : Nat} {text : List Char} (h : text.length ≤ n) :
    pieces text = piecesWithin n text := by
  induction n generalizing text with
  | zero =>
      obtain rfl := List.eq_nil_of_length_eq_zero (Nat.le_zero.mp h)
      exact pieces_of_blank (by simp)
  | succ n ih =>
      rw [piecesWithin]
      have hshorter := (List.dropWhile_suffix Text.isBlank (l := text)).length_le
      cases hpiece : splitPiece? (text.dropWhile Text.isBlank) with
      | some found =>
          have hrest := length_splitPiece? hpiece
          rw [pieces_of_splitPiece? rfl hpiece, ih (by omega)]
      | none =>
          have hbreak : AtBreak (text.dropWhile Text.isBlank) := by
            by_contra hvalue
            obtain ⟨piece, rest, hfound⟩ := exists_splitPiece?_eq_some hvalue
            simp [hpiece] at hfound
          have hnil : text.dropWhile Text.isBlank = [] := by
            have hhead := List.head?_dropWhile_not Text.isBlank text
            cases hstart : text.dropWhile Text.isBlank with
            | nil => rfl
            | cons c more => simp_all
          exact pieces_of_blank (List.dropWhile_eq_nil_iff.mp hnil)

/-- The pieces of a text are the only way to cut it. -/
theorem pieces_eq_iff {text : List Char} {ps : List Piece} :
    pieces text = ps ↔ Cut IsFieldVariant text ps :=
  ⟨fun h => h ▸ cut_pieces text, fun h => (cut_pieces text).unique (fun _ hname => hname) h⟩

end Catalogue.Query
