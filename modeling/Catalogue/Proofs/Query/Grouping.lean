import Catalogue.Proofs.Query.Meaning
import Catalogue.Query.Match

/-!
# Groups of tokens

The groups of a query are what remains of the segments between its `OR`s when the operators are
dropped and empty segments are left out (`groups_eq_ok_iff`).  Everything else about groups follows
from this and from the way a list of tokens is made: either it has no `OR`, or a first one splits it
(`or_induction`).  Two tokens are in the same group exactly when no `OR` stands between them, and a
record matches a query exactly when it matches what is searched for in one of its segments.
-/

namespace Catalogue

namespace Token

/-- An operator token whose value is not the name of an operator. -/
def IsUnknownOperator (t : Token) : Prop :=
  t.isOperator = true ∧ ∀ op : BooleanOperator, t.value ≠ op.name

/-- Whether a token is the operator that splits groups. -/
def isOr (t : Token) : Bool :=
  t.isOperator && t.value = BooleanOperator.or.name

/-- Whether a token is an operator that splits nothing. -/
def isFiller (t : Token) : Bool :=
  t.isOperator && (t.value = BooleanOperator.and.name || t.value = BooleanOperator.not.name)

/-- Every token plays one of four roles. -/
theorem role_cases (t : Token) :
    t.IsUnknownOperator ∨ t.isOr = true ∨ t.isFiller = true ∨ t.isOperator = false := by
  by_cases hop : t.isOperator = true
  · by_cases hknown : ∃ op : BooleanOperator, t.value = op.name
    · obtain ⟨op, hvalue⟩ := hknown
      cases op <;> simp [isOr, isFiller, hop, hvalue]
    · exact Or.inl ⟨hop, not_exists.mp hknown⟩
  · simp [hop]

/-- An unknown operator is reported by its value. -/
theorem IsUnknownOperator.operator? {t : Token} (h : t.IsUnknownOperator) :
    t.operator? = .error ⟨some (Text.quote t.value), .booleanOperator⟩ := by
  have hnone : BooleanOperator.names.lookup t.value = none := by
    rw [Option.eq_none_iff_forall_ne_some]
    exact fun op hop => h.2 op (BooleanOperator.lookup_eq_some_iff.mp hop)
  rw [Token.operator?, if_pos h.1, map_eq_error_iff, Choice.ofName_eq_error_iff]
  exact ⟨hnone, rfl⟩

/-- An operator token names the operator with its value. -/
theorem operator?_of_value {t : Token} {op : BooleanOperator} (hop : t.isOperator = true)
    (hvalue : t.value = op.name) : t.operator? = .ok (some op) := by
  rw [Token.operator?, if_pos hop, map_eq_ok_iff]
  exact ⟨op, Choice.ofName_eq_ok_iff.mpr (BooleanOperator.lookup_eq_some_iff.mpr hvalue), rfl⟩

theorem isOr_eq_true_iff {t : Token} :
    t.isOr = true ↔ t.isOperator = true ∧ t.value = BooleanOperator.or.name := by
  simp [isOr]

theorem isFiller_eq_true_iff {t : Token} :
    t.isFiller = true ↔
      t.isOperator = true ∧ ∃ op : BooleanOperator, op ≠ .or ∧ t.value = op.name := by
  have hop : (∃ op : BooleanOperator, op ≠ .or ∧ t.value = op.name) ↔
      t.value = BooleanOperator.and.name ∨ t.value = BooleanOperator.not.name := by
    constructor
    · rintro ⟨op, hne, hvalue⟩
      cases op <;> simp_all
    · rintro (hvalue | hvalue)
      · exact ⟨.and, by simp, hvalue⟩
      · exact ⟨.not, by simp, hvalue⟩
  simp [isFiller, hop]

/-- A token that is searched for splits nothing. -/
theorem isOr_eq_false_of_searched {t : Token} (h : t.isOperator = false) : t.isOr = false := by
  simp [isOr, h]

theorem isOr_eq_false_of_isFiller {t : Token} (h : t.isFiller = true) : t.isOr = false := by
  obtain ⟨-, op, hne, hvalue⟩ := isFiller_eq_true_iff.mp h
  cases op <;> simp_all [isOr, BooleanOperator.name]

/-- A token with the name of an operator is no unknown one. -/
theorem not_isUnknownOperator_of_value {t : Token} {op : BooleanOperator}
    (h : t.value = op.name) : ¬ t.IsUnknownOperator :=
  fun hunknown => hunknown.2 op h

/-- What is searched for is no operator, so no unknown one. -/
theorem not_isUnknownOperator_of_searched {t : Token} (h : t.isOperator = false) :
    ¬ t.IsUnknownOperator := by
  rintro ⟨hop, -⟩
  simp [h] at hop

end Token

namespace Query

/-- The tokens that are searched for. -/
def searched (ts : List Token) : List Token :=
  ts.filter fun t => !t.isOperator

@[simp] theorem searched_append (ts ts' : List Token) :
    searched (ts ++ ts') = searched ts ++ searched ts' :=
  List.filter_append ts ts'

/-- The segments of a list of tokens between its `OR`s. -/
def segments (ts : List Token) : List (List Token) :=
  ts.splitOnP Token.isOr

/-- What is searched for in the segments, empty groups left out. -/
def segmentGroups (ts : List Token) : List (List Token) :=
  ((segments ts).map searched).flatMap nonempty

section Step

variable {t : Token} (current ts : List Token)

/-- An unknown operator ends the search for groups. -/
theorem groupsAfter_unknown (h : t.IsUnknownOperator) :
    groupsAfter current (t :: ts) = .error ⟨some (Text.quote t.value), .booleanOperator⟩ := by
  rw [groupsAfter, h.operator?]

/-- An `OR` ends the current group. -/
theorem groupsAfter_or (h : t.isOr = true) :
    groupsAfter current (t :: ts) = (groupsAfter [] ts).map (nonempty current ++ ·) := by
  obtain ⟨hop, hvalue⟩ := Token.isOr_eq_true_iff.mp h
  rw [groupsAfter, Token.operator?_of_value hop hvalue]

/-- `AND` and `NOT` are passed over. -/
theorem groupsAfter_filler (h : t.isFiller = true) :
    groupsAfter current (t :: ts) = groupsAfter current ts := by
  obtain ⟨hop, op, hne, hvalue⟩ := Token.isFiller_eq_true_iff.mp h
  rw [groupsAfter, Token.operator?_of_value hop hvalue]
  cases op with
  | or => exact absurd rfl hne
  | and => rfl
  | not => rfl

/-- What is searched for joins the current group. -/
theorem groupsAfter_searched (h : t.isOperator = false) :
    groupsAfter current (t :: ts) = groupsAfter (current ++ [t]) ts := by
  have hnone : t.operator? = .ok none := by simp [Token.operator?, h]
  rw [groupsAfter, hnone]

end Step

/-- Grouping fails at the first unknown operator. -/
theorem groupsAfter_eq_error_iff {current ts : List Token} {e : UnknownChoice} :
    groupsAfter current ts = .error e ↔
      ∃ before t behind, ts = before ++ t :: behind ∧ (∀ u ∈ before, ¬ u.IsUnknownOperator) ∧
        t.IsUnknownOperator ∧ e = ⟨some (Text.quote t.value), .booleanOperator⟩ := by
  induction ts generalizing current with
  | nil => simp [groupsAfter]
  | cons t ts ih =>
      rw [exists_first_cons_iff]
      rcases t.role_cases with hunknown | hor | hfiller | hsearched
      · rw [groupsAfter_unknown current ts hunknown]
        simp [hunknown, eq_comm]
      · rw [groupsAfter_or current ts hor, map_eq_error_iff, ih]
        simp [Token.not_isUnknownOperator_of_value (Token.isOr_eq_true_iff.mp hor).2]
      · rw [groupsAfter_filler current ts hfiller, ih]
        obtain ⟨-, op, -, hvalue⟩ := Token.isFiller_eq_true_iff.mp hfiller
        simp [Token.not_isUnknownOperator_of_value hvalue]
      · rw [groupsAfter_searched current ts hsearched, ih]
        simp [Token.not_isUnknownOperator_of_searched hsearched]

/-- Without unknown operators the groups are those of the segments, the current group in front of
the first one. -/
theorem groupsAfter_eq (current : List Token) {ts : List Token}
    (h : ∀ t ∈ ts, ¬ t.IsUnknownOperator) :
    groupsAfter current ts =
      .ok ((((segments ts).map searched).modifyHead (current ++ ·)).flatMap nonempty) := by
  induction ts generalizing current with
  | nil => simp [groupsAfter, segments, searched]
  | cons t ts ih =>
      have hrest : ∀ u ∈ ts, ¬ u.IsUnknownOperator := fun u hu => h u (List.mem_cons_of_mem t hu)
      have hsegments := List.splitOnP_cons_eq_if_modifyHead (p := Token.isOr) t ts
      obtain ⟨first, rest, hsplit⟩ := List.exists_cons_of_ne_nil
        (List.splitOnP_ne_nil Token.isOr ts)
      rcases t.role_cases with hunknown | hor | hfiller | hsearched
      · exact absurd hunknown (h t List.mem_cons_self)
      · rw [groupsAfter_or current ts hor, ih [] hrest]
        rw [if_pos hor] at hsegments
        simp [segments, hsegments, hsplit, searched, Except.map]
      · rw [groupsAfter_filler current ts hfiller, ih current hrest]
        rw [if_neg (by simp [Token.isOr_eq_false_of_isFiller hfiller])] at hsegments
        have hop := (Token.isFiller_eq_true_iff.mp hfiller).1
        simp [segments, hsegments, hsplit, searched, hop]
      · rw [groupsAfter_searched current ts hsearched, ih (current ++ [t]) hrest]
        rw [if_neg (by simp [Token.isOr_eq_false_of_searched hsearched])] at hsegments
        simp [segments, hsegments, hsplit, searched, hsearched]

/-- There are groups unless an operator is unknown. -/
theorem exists_groups_error_iff {ts : List Token} :
    (∃ e, groups ts = .error e) ↔ ∃ t ∈ ts, t.IsUnknownOperator := by
  rw [← exists_first_iff]
  constructor
  · rintro ⟨e, he⟩
    obtain ⟨before, t, behind, hsplit, hbefore, ht, -⟩ := groupsAfter_eq_error_iff.mp he
    exact ⟨before, t, behind, hsplit, hbefore, ht⟩
  · rintro ⟨before, t, behind, hsplit, hbefore, ht⟩
    exact ⟨_, groupsAfter_eq_error_iff.mpr ⟨before, t, behind, hsplit, hbefore, ht, rfl⟩⟩

/-- **Groups are segments.**  The groups of tokens are those of their segments. -/
theorem groups_eq_ok_iff {ts : List Token} {gs : List (List Token)} :
    groups ts = .ok gs ↔ (∀ t ∈ ts, ¬ t.IsUnknownOperator) ∧ segmentGroups ts = gs := by
  by_cases hunknown : ∃ t ∈ ts, t.IsUnknownOperator
  · obtain ⟨e, he⟩ := exists_groups_error_iff.mpr hunknown
    obtain ⟨t, ht, hop⟩ := hunknown
    simp only [he, reduceCtorEq, false_iff]
    exact fun hknown => hknown.1 t ht hop
  · push Not at hunknown
    have hgroups : groups ts = .ok (segmentGroups ts) := by
      rw [groups, groupsAfter_eq [] hunknown, segmentGroups]
      cases (segments ts).map searched <;> rfl
    simp only [hgroups, Except.ok.injEq]
    exact ⟨fun h => ⟨hunknown, h⟩, And.right⟩

/-- **How a list of tokens is made.**  It has no `OR`, or the first one splits it. -/
theorem or_induction {motive : List Token → Prop}
    (free : ∀ ts, (∀ t ∈ ts, t.isOr = false) → motive ts)
    (split : ∀ ts t rest, (∀ u ∈ ts, u.isOr = false) → t.isOr = true → motive rest →
      motive (ts ++ t :: rest)) (ts : List Token) : motive ts := by
  suffices hall : ∀ front : List Token, (∀ t ∈ front, t.isOr = false) → motive (front ++ ts) by
    exact hall [] (by simp)
  induction ts with
  | nil => exact fun front hfront => free _ (by simpa using hfront)
  | cons t ts ih =>
      intro front hfront
      cases hor : t.isOr with
      | true => exact split front t ts hfront hor (ih [] (by simp))
      | false =>
          have hlonger : ∀ u ∈ front ++ [t], u.isOr = false := by
            simpa [or_imp, forall_and] using ⟨hfront, hor⟩
          simpa using ih (front ++ [t]) hlonger

/-- An `OR` splits the groups. -/
theorem segmentGroups_append_or {t : Token} (h : t.isOr = true) (ts rest : List Token) :
    segmentGroups (ts ++ t :: rest) = segmentGroups ts ++ segmentGroups rest := by
  simp [segmentGroups, segments, List.splitOnP_append_cons ts rest h]

/-- Without an `OR` there is one group at most. -/
theorem segmentGroups_of_free {ts : List Token} (h : ∀ t ∈ ts, t.isOr = false) :
    segmentGroups ts = nonempty (searched ts) := by
  simp [segmentGroups, segments, List.splitOnP_eq_singleton h]

theorem mem_nonempty_iff {group group' : List Token} :
    group ∈ nonempty group' ↔ group' = group ∧ group ≠ [] := by
  unfold nonempty
  split
  · next hempty =>
      obtain rfl := List.isEmpty_iff.mp hempty
      simp [eq_comm]
  · next hne =>
      rw [List.mem_singleton, eq_comm]
      refine (and_iff_left_of_imp ?_).symm
      rintro rfl
      simpa using hne

/-- Leaving out an empty group leaves out no token. -/
theorem flatten_nonempty (group : List Token) : (nonempty group).flatten = group := by
  cases group <;> simp [nonempty]

/-- The groups hold what is searched for, in order. -/
theorem flatten_segmentGroups (ts : List Token) : (segmentGroups ts).flatten = searched ts := by
  induction ts using or_induction with
  | free ts hfree => rw [segmentGroups_of_free hfree, flatten_nonempty]
  | split ts t rest hfree hor ih =>
      have hop := (Token.isOr_eq_true_iff.mp hor).1
      rw [segmentGroups_append_or hor, segmentGroups_of_free hfree, List.flatten_append,
        flatten_nonempty, ih]
      simp [searched, hop]

/-- What comes behind a list of tokens joins the tokens behind its last `OR`. -/
theorem exists_front (ts : List Token) :
    ∃ earlier front, (∀ t ∈ front, t.isOr = false) ∧
      earlier.flatten ++ searched front = searched ts ∧
      ∀ rest, segmentGroups (ts ++ rest) = earlier ++ segmentGroups (front ++ rest) := by
  induction ts using or_induction with
  | free ts hfree => exact ⟨[], ts, hfree, by simp, by simp⟩
  | split ts t rest _ hor ih =>
      obtain ⟨earlier, front, hfront, hflatten, hgroups⟩ := ih
      have hop := (Token.isOr_eq_true_iff.mp hor).1
      refine ⟨segmentGroups ts ++ earlier, front, hfront, ?_, fun more => ?_⟩
      · rw [List.flatten_append, flatten_segmentGroups, List.append_assoc, hflatten]
        simp [searched, hop]
      · rw [List.append_assoc, List.cons_append, segmentGroups_append_or hor, hgroups,
          List.append_assoc]

/-- What comes in front of a list of tokens joins the tokens before its first `OR`. -/
theorem exists_back (ts : List Token) :
    ∃ back later, (∀ t ∈ back, t.isOr = false) ∧
      searched back ++ later.flatten = searched ts ∧
      ∀ front, segmentGroups (front ++ ts) = segmentGroups (front ++ back) ++ later := by
  induction ts using or_induction with
  | free ts hfree => exact ⟨ts, [], hfree, by simp, by simp⟩
  | split ts t rest hfree hor _ =>
      have hop := (Token.isOr_eq_true_iff.mp hor).1
      refine ⟨ts, segmentGroups rest, hfree, ?_, fun front => ?_⟩
      · rw [flatten_segmentGroups]
        simp [searched, hop]
      · rw [← List.append_assoc, segmentGroups_append_or hor]

/-- A segment of a list of tokens: no `OR` is in it, and what lies around it ends and starts with
one. -/
def IsSegment (ts segment : List Token) : Prop :=
  ∃ before behind, ts = before ++ (segment ++ behind) ∧ (∀ t ∈ segment, t.isOr = false) ∧
    (∀ t, before.getLast? = some t → t.isOr = true) ∧
    ∀ t, behind.head? = some t → t.isOr = true

theorem IsSegment.subset {ts segment : List Token} (h : IsSegment ts segment) : segment ⊆ ts := by
  obtain ⟨before, behind, rfl, -⟩ := h
  exact fun t ht => List.mem_append_right _ (List.mem_append_left _ ht)

/-- Tokens without an `OR` are one segment. -/
theorem IsSegment.of_free {ts : List Token} (h : ∀ t ∈ ts, t.isOr = false) : IsSegment ts ts :=
  ⟨[], [], by simp, h, by simp, by simp⟩

/-- A segment of what follows an `OR` is one of the whole. -/
theorem IsSegment.append_or {rest segment : List Token} (h : IsSegment rest segment)
    (front : List Token) {t : Token} (hor : t.isOr = true) :
    IsSegment (front ++ t :: rest) segment := by
  obtain ⟨before, behind, rfl, hfree, hbefore, hbehind⟩ := h
  refine ⟨front ++ t :: before, behind, by simp, hfree, fun u hu => ?_, hbehind⟩
  rw [List.getLast?_append, List.getLast?_cons, Option.some_or, Option.some.injEq] at hu
  cases hlast : before.getLast? with
  | none => simpa [← hu, hlast] using hor
  | some v => simpa [← hu, hlast] using hbefore v hlast

/-- Splitting at the `OR`s yields segments. -/
theorem isSegment_of_mem_segments {ts segment : List Token} (h : segment ∈ segments ts) :
    IsSegment ts segment := by
  induction ts using or_induction with
  | free ts hfree =>
      rw [segments, List.splitOnP_eq_singleton hfree, List.mem_singleton] at h
      subst h
      exact .of_free hfree
  | split ts t rest hfree hor ih =>
      rw [segments, List.splitOnP_append_cons_of_forall_mem hfree t hor] at h
      rcases List.mem_cons.mp h with rfl | hrest
      · exact ⟨[], t :: rest, by simp, hfree, by simp, by simpa using hor⟩
      · exact (ih hrest).append_or ts hor

/-- Splitting at the `OR`s yields every segment. -/
theorem IsSegment.mem_segments {ts segment : List Token} (h : IsSegment ts segment) :
    segment ∈ segments ts := by
  obtain ⟨before, behind, rfl, hfree, hbefore, hbehind⟩ := h
  have hsegment : segment ∈ segments (segment ++ behind) := by
    cases behind with
    | nil => simp [segments, List.splitOnP_eq_singleton hfree]
    | cons t rest =>
        rw [segments, List.splitOnP_append_cons_of_forall_mem hfree t (hbehind t rfl)]
        exact List.mem_cons_self
  rcases List.eq_nil_or_concat' before with rfl | ⟨init, t, rfl⟩
  · exact hsegment
  · have hor := hbefore t (by simp)
    rw [List.append_assoc, List.singleton_append, segments, List.splitOnP_append_cons _ _ hor]
    exact List.mem_append_right _ hsegment

/-- Splitting at the `OR`s finds the segments. -/
theorem mem_segments_iff {ts segment : List Token} :
    segment ∈ segments ts ↔ IsSegment ts segment :=
  ⟨isSegment_of_mem_segments, IsSegment.mem_segments⟩

/-- The groups are what is searched for in the segments. -/
theorem mem_segmentGroups_iff {ts group : List Token} :
    group ∈ segmentGroups ts ↔
      ∃ segment, IsSegment ts segment ∧ searched segment = group ∧ group ≠ [] := by
  simp [segmentGroups, mem_nonempty_iff, mem_segments_iff]

/-- Two tokens are in one group.  Their places are told by what the groups hold `before`, `between`
and `behind` them. -/
def InOneGroup (gs : List (List Token)) (before : List Token) (x : Token) (between : List Token)
    (y : Token) (behind : List Token) : Prop :=
  ∃ earlier later front back,
    gs = earlier ++ (front ++ x :: (between ++ y :: back)) :: later ∧
      earlier.flatten ++ front = before ∧ back ++ later.flatten = behind

/-- Tokens without an `OR` between them are in one group. -/
theorem inOneGroup_of_free {before between behind : List Token} {x y : Token}
    (hx : x.isOperator = false) (hy : y.isOperator = false)
    (hbetween : ∀ t ∈ between, t.isOr = false) :
    InOneGroup (segmentGroups (before ++ x :: (between ++ y :: behind))) (searched before) x
      (searched between) y (searched behind) := by
  obtain ⟨earlier, front, hfront, hbefore, hearlier⟩ := exists_front before
  obtain ⟨back, later, hback, hbehind, hlater⟩ := exists_back behind
  have hfree : ∀ t ∈ front ++ x :: (between ++ y :: back), t.isOr = false := by
    simp only [List.mem_append, List.mem_cons]
    rintro t (ht | rfl | ht | rfl | ht)
    · exact hfront t ht
    · exact Token.isOr_eq_false_of_searched hx
    · exact hbetween t ht
    · exact Token.isOr_eq_false_of_searched hy
    · exact hback t ht
  have hgroup : searched (front ++ x :: (between ++ y :: back)) =
      searched front ++ x :: (searched between ++ y :: searched back) := by
    simp [searched, hx, hy]
  refine ⟨earlier, later, searched front, searched back, ?_, hbefore, hbehind⟩
  have hsplit := hlater (front ++ x :: (between ++ [y]))
  simp only [List.append_assoc, List.cons_append, List.nil_append] at hsplit
  rw [hearlier, hsplit, segmentGroups_of_free hfree, hgroup]
  simp [nonempty]

/-- Tokens with an `OR` between them are in different groups. -/
theorem free_of_inOneGroup {before between behind : List Token} {x y : Token}
    (hx : x.isOperator = false)
    (h : InOneGroup (segmentGroups (before ++ x :: (between ++ y :: behind))) (searched before) x
      (searched between) y (searched behind)) : ∀ t ∈ between, t.isOr = false := by
  intro t ht
  by_contra hor
  rw [Bool.not_eq_false] at hor
  obtain ⟨left, right, rfl⟩ := List.append_of_mem ht
  obtain ⟨earlier, later, front, back, hgroups, hbefore, -⟩ := h
  have hsplit := segmentGroups_append_or hor (before ++ x :: left) (right ++ y :: behind)
  simp only [List.append_assoc, List.cons_append] at hsplit hgroups
  rw [hsplit] at hgroups
  -- The groups in front of the `OR` hold the first token but not the second one.
  have hfirst := congrArg List.length (flatten_segmentGroups (before ++ x :: left))
  have hx' : searched (x :: left) = x :: searched left := by simp [searched, hx]
  rw [searched_append, hx', ← hbefore] at hfirst
  simp only [List.length_append, List.length_cons] at hfirst
  rcases List.append_eq_append_iff.mp hgroups with ⟨middle, hearlier, -⟩ | ⟨middle, hfront, htail⟩
  · have hlength := congrArg (·.flatten.length) hearlier
    simp only [List.flatten_append, List.length_append] at hlength
    omega
  · cases middle with
    | nil =>
        simp only [hfront, List.append_nil] at hfirst
        omega
    | cons group middle =>
        obtain ⟨rfl, -⟩ := List.cons.inj htail
        rw [hfront] at hfirst
        simp only [List.flatten_append, List.flatten_cons, List.length_append, List.length_cons,
          searched_append] at hfirst
        omega

/-- `AND` and `NOT` have no influence on the groups. -/
theorem groupsAfter_filter (current ts : List Token) :
    groupsAfter current (ts.filter fun t => !t.isFiller) = groupsAfter current ts := by
  induction ts generalizing current with
  | nil => rfl
  | cons t ts ih =>
      cases hfiller : t.isFiller with
      | true => rw [List.filter_cons_of_neg (by simp [hfiller]), groupsAfter_filler _ _ hfiller, ih]
      | false =>
          rw [List.filter_cons_of_pos (by simp [hfiller])]
          rcases t.role_cases with hunknown | hor | hfiller' | hsearched
          · rw [groupsAfter_unknown _ _ hunknown, groupsAfter_unknown _ _ hunknown]
          · rw [groupsAfter_or _ _ hor, groupsAfter_or _ _ hor, ih]
          · simp [hfiller] at hfiller'
          · rw [groupsAfter_searched _ _ hsearched, groupsAfter_searched _ _ hsearched, ih]

/-- A record matches what is searched for in a segment. -/
def SegmentMatches (segment : List Token) (r : Record) : Prop :=
  (∃ t ∈ segment, t.isOperator = false) ∧
    ∀ t ∈ segment, t.isOperator = false → t.isMatch r = true

/-- A record matches one of the groups exactly when it matches one of the segments. -/
theorem someGroupMatches_segmentGroups_iff {ts : List Token} {r : Record} :
    someGroupMatches (segmentGroups ts) r = true ↔
      ∃ segment, IsSegment ts segment ∧ SegmentMatches segment r := by
  simp only [someGroupMatches, List.any_eq_true, List.all_eq_true, mem_segmentGroups_iff]
  have hsearched : ∀ (segment : List Token) (t : Token),
      t ∈ searched segment ↔ t ∈ segment ∧ t.isOperator = false := by
    simp [searched]
  constructor
  · rintro ⟨_, ⟨segment, hsegment, rfl, hne⟩, hall⟩
    obtain ⟨t, ht⟩ := List.exists_mem_of_ne_nil _ hne
    refine ⟨segment, hsegment, ⟨t, (hsearched segment t).mp ht⟩, fun u hu hop => ?_⟩
    exact hall u ((hsearched segment u).mpr ⟨hu, hop⟩)
  · rintro ⟨segment, hsegment, ⟨t, ht⟩, hall⟩
    refine ⟨_, ⟨segment, hsegment, rfl, ?_⟩, fun u hu => ?_⟩
    · exact List.ne_nil_of_mem ((hsearched segment t).mpr ht)
    · obtain ⟨hmem, hop⟩ := (hsearched segment u).mp hu
      exact hall u hmem hop

/-- What a list of tokens says about a record. -/
theorem isMatch_eq_ok_iff {ts : List Token} {r : Record} {b : Bool} :
    isMatch ts r = .ok b ↔ (∀ t ∈ ts, ¬ t.IsUnknownOperator) ∧
      (ts.isEmpty || someGroupMatches (segmentGroups ts) r) = b := by
  rw [isMatch]
  cases ts with
  | nil => simp
  | cons t ts =>
      simp only [List.isEmpty_cons, Bool.false_eq_true, if_false, Bool.false_or, map_eq_ok_iff,
        groups_eq_ok_iff]
      constructor
      · rintro ⟨gs, ⟨hknown, rfl⟩, hmatch⟩
        exact ⟨hknown, hmatch⟩
      · rintro ⟨hknown, hmatch⟩
        exact ⟨_, ⟨hknown, rfl⟩, hmatch⟩

/-- The groups of a list of tokens by its `OR`s. -/
structure IsGrouping (ts : List Token) (gs : List (List Token)) : Prop where
  /-- The groups hold what is searched for, each token once and in order. -/
  flatten : gs.flatten = searched ts
  /-- No group is empty. -/
  nonempty : [] ∉ gs
  /-- Two tokens are in one group exactly when no `OR` stands between them. -/
  together : ∀ before x between y behind, ts = before ++ x :: (between ++ y :: behind) →
    x.isOperator = false → y.isOperator = false →
      (InOneGroup gs (searched before) x (searched between) y (searched behind) ↔
        ∀ t ∈ between, t.isOr = false)

/-- The groups that are found are those by the `OR`s. -/
theorem isGrouping_segmentGroups (ts : List Token) : IsGrouping ts (segmentGroups ts) where
  flatten := flatten_segmentGroups ts
  nonempty hnil := by
    obtain ⟨_, -, -, hne⟩ := mem_segmentGroups_iff.mp hnil
    exact hne rfl
  together before x between y behind hts hx hy := by
    subst hts
    exact ⟨free_of_inOneGroup hx, inOneGroup_of_free hx hy⟩

/-- **Grouping and matching by segments.**  Only an unknown operator keeps a list of tokens from
having groups, and these are what its `OR`s leave together.  A record matches the empty list, and
otherwise those lists with a segment that searches for something and all of whose tokens that are
searched for match it.  Passing over `AND` and `NOT` changes neither, except that a list with
nothing else in it is not empty. -/
theorem groups_and_isMatch_by_segments (ts : List Token) (r : Record) :
    ((∃ e, groups ts = .error e) ↔ ∃ t ∈ ts, t.IsUnknownOperator) ∧
      (∀ gs, groups ts = .ok gs → IsGrouping ts gs) ∧
      ((∃ b, isMatch ts r = .ok b) ↔ ∀ t ∈ ts, ¬ t.IsUnknownOperator) ∧
      (isMatch ts r = .ok true ↔ (∀ t ∈ ts, ¬ t.IsUnknownOperator) ∧
        (ts = [] ∨ ∃ segment, IsSegment ts segment ∧ SegmentMatches segment r)) ∧
      ∀ ts', (ts.filter fun t => !t.isFiller) = (ts'.filter fun t => !t.isFiller) →
        groups ts = groups ts' ∧ (ts ≠ [] → ts' ≠ [] → isMatch ts r = isMatch ts' r) := by
  refine ⟨exists_groups_error_iff, fun gs hgs => ?_, ?_, ?_, fun ts' hts' => ?_⟩
  · obtain ⟨-, rfl⟩ := groups_eq_ok_iff.mp hgs
    exact isGrouping_segmentGroups ts
  · simp only [isMatch_eq_ok_iff, exists_and_left, exists_eq', and_true]
  · rw [isMatch_eq_ok_iff, Bool.or_eq_true, List.isEmpty_iff, someGroupMatches_segmentGroups_iff]
  · have hgroups : groups ts = groups ts' := by
      rw [groups, groups, ← groupsAfter_filter [] ts, hts', groupsAfter_filter]
    refine ⟨hgroups, fun hne hne' => ?_⟩
    rw [isMatch, isMatch, if_neg (by simpa using hne), if_neg (by simpa using hne'), hgroups]

/-- A query of operators alone is not the empty query. -/
example (r : Record) : isMatch [⟨.operator, "NOT", none, false⟩] r = .ok false := rfl

end Query

end Catalogue
