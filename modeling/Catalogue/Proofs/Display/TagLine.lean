import Mathlib
import Catalogue.Display.Report
import Catalogue.Proofs.Display.StyledText
import Catalogue.Proofs.Text.Trimming

/-!
# Tags in a line

Tags are shown next to each other, each in its colour, with a space between neighbours.  With a
limit only the first ones are shown, and a number behind them tells how many are left out.  The tags
are trimmed and blank ones are dropped before they are counted, so the number and the tags shown
make up all tags that are not blank (`Report.tags_isTagLine`).
-/

namespace Catalogue

namespace Report

open StyledText (spansFrom shownPieces)

/-- The tags that can be shown: trimmed, blank ones left out. -/
def properTags (names : List String) : List String :=
  (names.map Text.trim).filter (· ≠ "")

/-- The tags that are shown under a limit. -/
def shownTags (names : List String) (limit : Option Int) : List String :=
  match limit with
  | some limit => (properTags names).take limit.toNat
  | none => properTags names

/-- What is written behind the tags when some are not shown. -/
def hiddenText (hidden : Nat) : String :=
  " +" ++ toString hidden

/-- Tags in a line, and behind them the number of those that are not shown. -/
structure IsTagLine (line : StyledText) (shown : List String) (hidden : Nat) : Prop where
  plain_eq : line.plain = Text.join " " shown ++ if 0 < hidden then hiddenText hidden else ""
  /-- What no span covers has no style. -/
  unstyled : line.style = ""
  within : line.IsWithin
  increasing : line.spans.Pairwise fun a b => a.stop ≤ b.start
  /-- There is one span for each tag, in its colour, and a last one if tags are hidden. -/
  drawn_eq : line.drawn =
    (shown.map fun tag => (tag, (TagColor.ofTag tag).style)) ++
      if 0 < hidden then [(hiddenText hidden, "dim")] else []
  /-- From a tag to the next one there is a space that belongs to neither. -/
  separated : (line.spans.take shown.length).IsChain fun a b => line.slice a.stop b.start = " "

/-- Tags with their styles. -/
def styledTags (shown : List String) : List (String × String) :=
  shown.map fun tag => (tag, tagStyle tag)

/-- The line of some tags, with the number of others. -/
def tagLine (shown : List String) (hidden : Nat) : StyledText :=
  let line := StyledText.appendAll " " {} (styledTags shown)
  if 0 < hidden then line.append (hiddenText hidden) (some "dim") else line

/-- **The tags and their number.**  What is hidden under a limit is the rest of the tags. -/
theorem tags_eq (names : List String) {limit : Option Int} (h : ∀ n ∈ limit, 0 ≤ n) :
    tags names limit =
      tagLine (shownTags names limit)
        ((properTags names).length - (shownTags names limit).length) := by
  cases limit with
  | none => simp [tags, tagLine, shownTags, properTags, styledTags]
  | some n =>
      lift n to Nat using h n rfl
      have hshown : upTo (n : Int) (properTags names) = (properTags names).take n := by
        rw [upTo, if_pos (Int.natCast_nonneg n), Int.toNat_natCast]
      have hrest : (properTags names).length - ((properTags names).take n).length =
          (properTags names).length - n := by
        rw [List.length_take]
        omega
      rw [shownTags, Int.toNat_natCast, hrest, tagLine, tags, ← properTags, hshown]
      by_cases hmore : n < (properTags names).length
      · have hcount : ((properTags names).length : Int) - n =
            ((properTags names).length - n : Nat) := by omega
        rw [hcount, if_pos (by omega), if_pos (by omega)]
        rfl
      · rw [if_neg (by omega), if_neg (by omega)]
        rfl

/-- A digit is shown. -/
theorem isShown_of_isDigit {c : Char} (h : c.isDigit = true) : StyledText.isShown c = true := by
  simp only [Char.isDigit, UInt32.le_iff_toNat_le, StyledText.isShown, Char.toNat] at *
  simp at *
  omega

/-- The number of hidden tags is shown as it is. -/
theorem shown_hiddenText (hidden : Nat) :
    StyledText.shown (hiddenText hidden) = hiddenText hidden := by
  refine StyledText.shown_eq fun c hc => ?_
  rw [hiddenText, String.toList_append, List.mem_append] at hc
  rcases hc with hmark | hdigit
  · obtain rfl | rfl : c = ' ' ∨ c = '+' := by simpa using hmark
    · decide
    · decide
  · have hdigits : (toString hidden).toList = Nat.toDigits 10 hidden := Nat.toList_repr
    rw [hdigits] at hdigit
    exact isShown_of_isDigit (Nat.isDigit_of_mem_toDigits (by decide) (by decide) hdigit)

theorem hiddenText_ne_empty (hidden : Nat) : hiddenText hidden ≠ "" := by
  simp [hiddenText]

section Line

variable {shown : List String}

theorem map_fst_styledTags (shown : List String) : (styledTags shown).map (·.1) = shown := by
  rw [styledTags, List.map_map]
  exact List.map_id shown

/-- Without control characters, the tags of a line and their spaces are its text. -/
theorem appendAll_styledTags (hne : ∀ tag ∈ shown, tag ≠ "")
    (hshown : ∀ tag ∈ shown, StyledText.shown tag = tag) :
    StyledText.appendAll " " {} (styledTags shown) =
      { plain := Text.join " " shown
        spans := spansFrom " ".length "".length (styledTags shown) } := by
  have hpieces : ∀ piece ∈ styledTags shown, piece.1 ≠ "" := by
    intro piece hpiece
    obtain ⟨tag, htag, rfl⟩ := List.mem_map.mp hpiece
    exact hne tag htag
  have hsame : shownPieces (styledTags shown) = styledTags shown := by
    rw [shownPieces, styledTags, List.map_map]
    exact List.map_congr_left fun tag htag => Prod.ext (hshown tag htag) rfl
  have hspace : StyledText.shown " " = " " := by decide +kernel
  rw [StyledText.appendAll_eq hpieces, hsame, hspace, map_fst_styledTags]
  simp

/-- Without hidden tags, the line of some tags is a line of these tags. -/
theorem isTagLine_appendAll (hne : ∀ tag ∈ shown, tag ≠ "")
    (hshown : ∀ tag ∈ shown, StyledText.shown tag = tag) :
    IsTagLine (StyledText.appendAll " " {} (styledTags shown)) shown 0 := by
  have hline := appendAll_styledTags hne hshown
  generalize StyledText.appendAll " " {} (styledTags shown) = line at hline
  have hspans := congrArg StyledText.spans hline
  have hplain := congrArg StyledText.plain hline
  have hpieces : line.plain = "" ++ Text.join " " ((styledTags shown).map (·.1)) ++ "" := by
    rw [hplain, map_fst_styledTags, String.empty_append, String.append_empty]
  refine ⟨hplain.trans String.append_empty.symm, congrArg StyledText.style hline, ?_, ?_, ?_, ?_⟩
  · intro span hspan
    rw [hspans] at hspan
    obtain ⟨-, hstart, hstop⟩ := StyledText.mem_spansFrom hspan
    rw [map_fst_styledTags, String.length_empty, Nat.zero_add] at hstop
    rw [hplain]
    exact ⟨hstart, hstop⟩
  · rw [hspans]
    exact StyledText.pairwise_spansFrom " " "" (styledTags shown)
  · rw [StyledText.drawn, hspans, StyledText.map_spansFrom hpieces]
    exact (List.append_nil _).symm
  · refine List.IsChain.take ?_ _
    rw [hspans]
    exact StyledText.isChain_spansFrom hpieces

/-- The number of hidden tags is written behind a line without one. -/
theorem IsTagLine.append_hidden {line : StyledText} (h : IsTagLine line shown 0) {hidden : Nat}
    (hmore : 0 < hidden) :
    IsTagLine (line.append (hiddenText hidden) (some "dim")) shown hidden := by
  have hne := hiddenText_ne_empty hidden
  have hspans := congrArg StyledText.spans (StyledText.append_some hne line "dim")
  have hlength : line.spans.length = shown.length := by
    have hdrawn := congrArg List.length h.drawn_eq
    rwa [StyledText.drawn, List.length_map, List.length_append, List.length_map] at hdrawn
  refine ⟨?_, ?_, h.within.append hne "dim",
    StyledText.pairwise_append h.within h.increasing hne "dim", ?_, ?_⟩
  · rw [StyledText.plain_append, shown_hiddenText, h.plain_eq, if_neg (lt_irrefl 0),
      String.append_empty, if_pos hmore]
  · rw [StyledText.append_some hne]
    exact h.unstyled
  · rw [StyledText.drawn_append h.within hne, shown_hiddenText, h.drawn_eq, if_neg (lt_irrefl 0),
      List.append_nil, if_pos hmore]
  · -- What the number is written behind is left alone, so the gaps are the same.
    have hgaps := h.separated
    rw [List.take_of_length_le hlength.le] at hgaps
    rw [hspans, List.take_left' hlength]
    refine hgaps.imp_of_mem_imp fun a b _ hb hgap => ?_
    have hstart := h.within b hb
    rw [StyledText.slice_append (hstart.1.trans hstart.2), hgap]

/-- The line of some tags, with the number of others. -/
theorem isTagLine_tagLine (hne : ∀ tag ∈ shown, tag ≠ "")
    (hshown : ∀ tag ∈ shown, StyledText.shown tag = tag) (hidden : Nat) :
    IsTagLine (tagLine shown hidden) shown hidden := by
  have hline := isTagLine_appendAll hne hshown
  rw [tagLine]
  rcases Nat.eq_zero_or_pos hidden with rfl | hmore
  · exact hline
  · rw [if_pos hmore]
    exact hline.append_hidden hmore

end Line

/-- What is shown is not empty, and nothing of it is taken out. -/
theorem shown_of_mem_properTags {names : List String}
    (h : ∀ name ∈ names, ∀ c ∈ name.toList, StyledText.isShown c = true) {tag : String}
    (htag : tag ∈ properTags names) : tag ≠ "" ∧ StyledText.shown tag = tag := by
  obtain ⟨htrimmed, hne⟩ := List.mem_filter.mp htag
  obtain ⟨name, hname, rfl⟩ := List.mem_map.mp htrimmed
  exact ⟨of_decide_eq_true hne,
    StyledText.shown_eq fun c hc => h name hname c (Text.mem_of_mem_trim hc)⟩

/-- The tags that are shown are the first of the proper ones. -/
theorem shownTags_prefix (names : List String) (limit : Option Int) :
    shownTags names limit <+: properTags names := by
  cases limit with
  | none => exact List.prefix_rfl
  | some n => exact List.take_prefix _ _

/-- **Tags in a line.**  Each shown tag has its span, in its colour, with a space before the next
one; a last span holds the number of the tags that are hidden, if there are any. -/
theorem tags_isTagLine {names : List String} {limit : Option Int}
    (hnames : ∀ name ∈ names, ∀ c ∈ name.toList, StyledText.isShown c = true)
    (hlimit : ∀ n ∈ limit, 0 ≤ n) :
    ∃ hidden, hidden + (shownTags names limit).length = (properTags names).length ∧
      IsTagLine (tags names limit) (shownTags names limit) hidden := by
  have hfirst := shownTags_prefix names limit
  have hproper : ∀ tag ∈ shownTags names limit, tag ≠ "" ∧ StyledText.shown tag = tag :=
    fun tag htag => shown_of_mem_properTags hnames (hfirst.subset htag)
  refine ⟨_, Nat.sub_add_cancel hfirst.length_le, ?_⟩
  rw [tags_eq names hlimit]
  exact isTagLine_tagLine (fun tag htag => (hproper tag htag).1)
    (fun tag htag => (hproper tag htag).2) _

/-- Of three tags two are shown; a blank one is not counted. -/
theorem tags_isTagLine_limited :
    (∀ name ∈ [" sci-fi", "\t", "été ", "war"], ∀ c ∈ name.toList, StyledText.isShown c = true) ∧
      (∀ n ∈ some (2 : Int), 0 ≤ n) ∧
      IsTagLine (tags [" sci-fi", "\t", "été ", "war"] (some 2)) ["sci-fi", "été"] 1 := by
  have hnames : ∀ name ∈ [" sci-fi", "\t", "été ", "war"], ∀ c ∈ name.toList,
      StyledText.isShown c = true := by
    simp only [← List.all_eq_true]
    decide +kernel
  have hlimit : ∀ n ∈ some (2 : Int), 0 ≤ n := by simp
  have hproper : properTags [" sci-fi", "\t", "été ", "war"] = ["sci-fi", "été", "war"] := by
    decide +kernel
  have hshown : shownTags [" sci-fi", "\t", "été ", "war"] (some 2) = ["sci-fi", "été"] := by
    rw [shownTags, hproper]
    rfl
  obtain ⟨hidden, hcount, hline⟩ := tags_isTagLine hnames hlimit
  rw [hshown, hproper] at hcount
  rw [hshown] at hline
  obtain rfl : hidden = 1 := Nat.add_right_cancel hcount
  exact ⟨hnames, hlimit, hline⟩

end Report

end Catalogue
