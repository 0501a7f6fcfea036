import Catalogue.Proofs.Calendar
import Catalogue.Timestamp.Reader

/-!
# Timestamps as instants

A timestamp that was read is a date of the years 1 to 9999 with a time of day and an offset of less
than a day (`isWellFormed_of_read?`).  Its offset is zero unless the text has a sign behind the date
(`offset_eq_zero_of_isNaive`).  An instant with its offset added is what the date and the clock
show, and these are in the order of the fields (`instant_add_offset_lt_iff`).
-/

namespace Catalogue.Timestamp

/-- A date and time that exist, with an offset of less than a day. -/
structure IsWellFormed (t : Timestamp) : Prop where
  date : Calendar.isDate t.year t.month t.day = true
  hour : t.hour ≤ 23
  minute : t.minute ≤ 59
  second : t.second ≤ 59
  microsecond : t.microsecond < 1000000
  offset : t.offset.natAbs < 86400000000

section Reading

variable {text : List UInt8} {p stop n value : Nat} {fields : List Nat}

/-- Digits write a number below a power of ten. -/
theorem foldl_digits_lt {digits : List UInt8} (h : ∀ b ∈ digits, isDigitByte b = true) {k : Nat}
    (hvalue : value < 10 ^ k) :
    digits.foldl (fun value b => 10 * value + (b.toNat - 0x30)) value <
      10 ^ (k + digits.length) := by
  induction digits generalizing value k with
  | nil => exact hvalue
  | cons b digits ih =>
      have hb := h b List.mem_cons_self
      have hdigit : b.toNat - 0x30 ≤ 9 := by
        simp only [isDigitByte, Bool.and_eq_true, decide_eq_true_eq, UInt8.le_iff_toNat_le] at hb
        have hnine : (0x39 : UInt8).toNat = 57 := rfl
        omega
      have hnext : 10 * value + (b.toNat - 0x30) < 10 ^ (k + 1) := by
        rw [Nat.pow_succ]
        omega
      have hrest := ih (fun c hc => h c (List.mem_cons_of_mem b hc)) hnext
      rwa [Nat.add_assoc, Nat.add_comm 1] at hrest

/-- A number of `n` digits is below the power of ten with as many zeros. -/
theorem number?_lt (h : number? text p n = some value) : value < 10 ^ n := by
  simp only [number?] at h
  split at h
  · next hdigits =>
      obtain rfl := Option.some.inj h
      have hlt := foldl_digits_lt (fun b hb => List.all_eq_true.mp hdigits.2 b hb)
        (by decide : 0 < 10 ^ 0)
      rwa [Nat.zero_add, hdigits.1] at hlt
  · simp at h

/-- Where a number stands, the text goes on for its digits. -/
theorem add_le_of_number? (h : number? text p n = some value) (hn : 0 < n) :
    p + n ≤ text.length := by
  simp only [number?] at h
  split at h
  · next hdigits =>
      have hlength := hdigits.1
      rw [List.length_take, List.length_drop] at hlength
      omega
  · simp at h

/-- At most six digits of a fraction count, so it is less than a second. -/
theorem microsecond_fractionAt?_lt {c : Clock} (h : fractionAt? text p stop fields = some c) :
    c.microsecond < 1000000 := by
  simp only [fractionAt?, bind, pure, Option.bind_eq_some_iff, Option.some.injEq] at h
  obtain ⟨value, hvalue, rfl⟩ := h
  have hle : min (stop - p) 6 ≤ 6 := Nat.min_le_right _ _
  have hlt := number?_lt hvalue
  generalize min (stop - p) 6 = n at *
  calc value * 10 ^ (6 - n) < 10 ^ n * 10 ^ (6 - n) :=
        Nat.mul_lt_mul_of_pos_right hlt (Nat.pow_pos (by decide))
    _ = 1000000 := by rw [← Nat.pow_add, Nat.add_sub_cancel' hle]

/-- A clock shows fewer microseconds than a second has. -/
theorem microsecond_clockAt?_lt {c : Clock} {colons : Option Bool} {left : Nat}
    (h : clockAt? text stop colons fields left p = some c) : c.microsecond < 1000000 := by
  induction left generalizing colons fields p with
  | zero => exact microsecond_fractionAt?_lt h
  | succ left ih =>
      simp only [clockAt?, bind, pure, Option.bind_eq_some_iff] at h
      obtain ⟨field, -, h⟩ := h
      split at h
      · obtain rfl := Option.some.inj h
        exact (by decide : 0 < 1000000)
      · split at h
        · exact ih h
        · split at h
          · exact microsecond_fractionAt?_lt h
          · split at h
            · exact ih h
            · simp at h

/-- A clock has a number at its place. -/
theorem add_two_le_of_clockAt? {c : Clock} {colons : Option Bool} {left : Nat}
    (h : clockAt? text stop colons fields (left + 1) p = some c) : p + 2 ≤ text.length := by
  simp only [clockAt?, bind, Option.bind_eq_some_iff] at h
  obtain ⟨field, hfield, -⟩ := h
  exact add_le_of_number? hfield (by decide)

/-- An offset of a day or more is refused. -/
theorem natAbs_offset?_lt {negative : Bool} {c : Clock} {offset : Int}
    (h : offset? negative c = some offset) : offset.natAbs < 86400000000 := by
  have hbound : offsetBound = 86400000000 := rfl
  simp only [offset?] at h
  split_ifs at h <;> simp only [Option.some.injEq] at h <;> omega

/-- Whether an offset begins here, or a `Z` in its place. -/
def isSign (b : UInt8) : Bool :=
  b = 0x2B || b = 0x2D || b = 0x5A

/-- Where the time of day ends. -/
def signAt (text : List UInt8) (p : Nat) : Nat :=
  p + ((text.drop p).takeWhile (!isSign ·)).length

/-- The time of day comes first, and only behind a sign other than `Z` an offset is written. -/
theorem timeAndOffset?_cases {c : Clock} {offset : Int}
    (h : timeAndOffset? text p = some (c, offset)) :
    clockAt? text (signAt text p) none [] 3 p = some c ∧
      (offset = 0 ∨ signAt text p ≠ text.length ∧ byteAt text (signAt text p) ≠ 0x5A ∧
        ∃ negative written, offset? negative written = some offset) := by
  simp only [timeAndOffset?, bind, pure, Option.bind_eq_some_iff] at h
  obtain ⟨clock, hclock, h⟩ := h
  change clockAt? text (signAt text p) none [] 3 p = some clock at hclock
  change (if signAt text p = text.length then _ else if byteAt text (signAt text p) = 0x5A then _
    else _) = _ at h
  split at h
  · split at h
    · simp at h
    · obtain ⟨rfl, rfl⟩ := Prod.mk.inj (Option.some.inj h)
      exact ⟨hclock, Or.inl rfl⟩
  · next hinside =>
      split at h
      · split at h
        · simp at h
        · obtain ⟨rfl, rfl⟩ := Prod.mk.inj (Option.some.inj h)
          exact ⟨hclock, Or.inl rfl⟩
      · next hmark =>
          simp only [Option.bind_eq_some_iff] at h
          obtain ⟨written, -, h⟩ := h
          split at h
          · simp at h
          · simp only [Option.bind_eq_some_iff] at h
            obtain ⟨found, hfound, hsame⟩ := h
            obtain ⟨rfl, rfl⟩ := Prod.mk.inj (Option.some.inj hsame)
            exact ⟨hclock, Or.inr ⟨hinside, hmark, _, written, hfound⟩⟩

/-- No offset that is read is as long as a day. -/
theorem natAbs_timeAndOffset?_lt {c : Clock} {offset : Int}
    (h : timeAndOffset? text p = some (c, offset)) : offset.natAbs < 86400000000 := by
  obtain ⟨-, rfl | ⟨-, -, negative, written, hfound⟩⟩ := timeAndOffset?_cases h
  · decide
  · exact natAbs_offset?_lt hfound

/-- Without a sign there is no offset. -/
theorem timeAndOffset?_unsigned {c : Clock} {offset : Int}
    (h : timeAndOffset? text p = some (c, offset))
    (hnaive : ∀ b ∈ text.drop p, b ≠ 0x2B ∧ b ≠ 0x2D) : offset = 0 := by
  obtain ⟨hclock, hzero | ⟨hinside, hmark, -⟩⟩ := timeAndOffset?_cases h
  · exact hzero
  · have hlength := add_two_le_of_clockAt? hclock
    have hsplit := List.takeWhile_append_dropWhile (p := (!isSign ·)) (l := text.drop p)
    cases hrest : (text.drop p).dropWhile (!isSign ·) with
    | nil =>
        rw [hrest, List.append_nil] at hsplit
        refine absurd ?_ hinside
        rw [signAt, hsplit, List.length_drop]
        omega
    | cons b rest =>
        have hsign : isSign b = true := by
          have hhead := List.head?_dropWhile_not (!isSign ·) (text.drop p)
          rw [hrest] at hhead
          exact (Bool.not_eq_false' (isSign b)).mp hhead
        have hmem : b ∈ text.drop p := by
          rw [← hsplit, hrest]
          exact List.mem_append_cons_self
        have hbyte : byteAt text (signAt text p) = b := by
          rw [byteAt, signAt, List.getD_eq_getElem?_getD, ← List.getElem?_drop]
          generalize (text.drop p).takeWhile (!isSign ·) = run at *
          rw [← hsplit, hrest, List.getElem?_append_right (Nat.le_refl _), Nat.sub_self]
          rfl
        obtain ⟨hplus, hminus⟩ := hnaive b hmem
        simp only [isSign, hplus, hminus, decide_false, Bool.false_or, decide_eq_true_eq] at hsign
        exact absurd (hbyte.trans hsign) hmark

variable {cs : List Char} {s : String} {t t' : Timestamp}

/-- What is read is a date, and behind one more character a time of day with its offset. -/
theorem ofChars?_cases (h : ofChars? cs = some t) :
    ∃ separator, separatorAt? (Text.Utf8.encode cs) = some separator ∧
      (Calendar.isDate t.year t.month t.day = true ∧ t.hour ≤ 23 ∧ t.minute ≤ 59 ∧ t.second ≤ 59) ∧
      ((t.microsecond = 0 ∧ t.offset = 0) ∨
        ∃ clock, clock.microsecond = t.microsecond ∧
          timeAndOffset? (Text.Utf8.encode cs)
              (separator + characterLength (byteAt (Text.Utf8.encode cs) separator)) =
            some (clock, t.offset)) := by
  simp only [ofChars?, bind, pure] at h
  split at h
  · simp at h
  · simp only [Option.bind_eq_some_iff] at h
    obtain ⟨separator, hseparator, ⟨year, month, day⟩, -, h⟩ := h
    have hvalid : ∀ (clock : Clock) (offset : Int),
        (if Calendar.isDate year month day = true ∧ clock.hour ≤ 23 ∧ clock.minute ≤ 59 ∧
            clock.second ≤ 59 then
          some (⟨year, month, day, clock.hour, clock.minute, clock.second, clock.microsecond,
            offset⟩ : Timestamp)
        else none) = some t →
        (Calendar.isDate t.year t.month t.day = true ∧ t.hour ≤ 23 ∧ t.minute ≤ 59 ∧
          t.second ≤ 59) ∧ clock.microsecond = t.microsecond ∧ offset = t.offset := by
      intro clock offset hsome
      split at hsome
      · next hvalid =>
          obtain rfl := Option.some.inj hsome
          exact ⟨hvalid, rfl, rfl⟩
      · simp at hsome
    split at h
    · simp only [Option.bind_eq_some_iff] at h
      obtain ⟨⟨clock, offset⟩, htime, hsome⟩ := h
      obtain ⟨hfields, hmicrosecond, rfl⟩ := hvalid clock offset hsome
      exact ⟨separator, hseparator, hfields, Or.inr ⟨clock, hmicrosecond, htime⟩⟩
    · obtain ⟨hfields, hmicrosecond, hoffset⟩ := hvalid {} 0 h
      exact ⟨separator, hseparator, hfields, Or.inl ⟨hmicrosecond.symm, hoffset.symm⟩⟩

/-- **A timestamp that was read is a date of the years 1 to 9999, a time of day and an offset of
less than a day.** -/
theorem isWellFormed_of_read? (h : read? s = some t) : t.IsWellFormed := by
  obtain ⟨separator, -, ⟨hdate, hhour, hminute, hsecond⟩, hrest⟩ := ofChars?_cases h
  rcases hrest with ⟨hmicrosecond, hoffset⟩ | ⟨clock, hmicrosecond, htime⟩
  · exact ⟨hdate, hhour, hminute, hsecond, by omega, by omega⟩
  · have hclock := microsecond_clockAt?_lt (timeAndOffset?_cases htime).1
    exact ⟨hdate, hhour, hminute, hsecond, by omega, natAbs_timeAndOffset?_lt htime⟩

/-- No offset is written: a sign stands neither behind the date nor behind the time of day. -/
def IsNaive (s : String) : Prop :=
  ∀ separator, separatorAt? (Text.Utf8.encode (Text.trimChars s.toList)) = some separator →
    ∀ b ∈ (Text.Utf8.encode (Text.trimChars s.toList)).drop (separator + 1), b ≠ 0x2B ∧ b ≠ 0x2D

theorem characterLength_pos (b : UInt8) : 0 < characterLength b := by
  unfold characterLength
  split_ifs <;> decide

/-- **Where no offset is written, the timestamp is in UTC.** -/
theorem offset_eq_zero_of_isNaive (h : read? s = some t) (hnaive : IsNaive s) : t.offset = 0 := by
  obtain ⟨separator, hseparator, -, ⟨-, hoffset⟩ | ⟨clock, -, htime⟩⟩ := ofChars?_cases h
  · exact hoffset
  · refine timeAndOffset?_unsigned htime fun b hb => hnaive separator hseparator b ?_
    have hpos := characterLength_pos
      (byteAt (Text.Utf8.encode (Text.trimChars s.toList)) separator)
    exact (List.drop_sublist_drop_left _ (by omega)).subset hb

end Reading

section Order

variable {t t' : Timestamp}

/-- What the date and the clock show, the year first. -/
def fields (t : Timestamp) : List Nat :=
  [t.year, t.month, t.day, t.hour, t.minute, t.second, t.microsecond]

/-- The microseconds of a day up to a time of day. -/
def ofDay (t : Timestamp) : Nat :=
  ((t.hour * 60 + t.minute) * 60 + t.second) * 1000000 + t.microsecond

/-- An instant with its offset added counts the days and the time of day. -/
theorem instant_add_offset (t : Timestamp) :
    t.instant + t.offset =
      ((Calendar.ordinal t.year t.month t.day : Int) - Calendar.ordinal 1970 1 1) * 86400000000 +
        t.ofDay := by
  simp only [instant, ofDay]
  push_cast
  ring

/-- A time of day is shorter than a day. -/
theorem IsWellFormed.ofDay_lt (h : t.IsWellFormed) : t.ofDay < 86400000000 := by
  obtain ⟨-, hhour, hminute, hsecond, hmicrosecond, -⟩ := h
  rw [ofDay]
  omega

/-- What a calendar and a clock show first comes first. -/
theorem instant_add_offset_lt (h : t.IsWellFormed) (h' : t'.IsWellFormed)
    (hlt : t.fields < t'.fields) : t.instant + t.offset < t'.instant + t'.offset := by
  have hdays := Calendar.ordinal_lt h.date h'.date
  have hday := h.ofDay_lt
  rw [instant_add_offset, instant_add_offset]
  simp only [fields, List.cons_lt_cons_iff, List.not_lt_nil, and_false, or_false] at hlt hdays
  rcases hlt with hyear | ⟨hyear, hmonth | ⟨hmonth, hday' | ⟨hday', hclock⟩⟩⟩
  · have := hdays (Or.inl hyear)
    omega
  · have := hdays (Or.inr ⟨hyear, Or.inl hmonth⟩)
    omega
  · have := hdays (Or.inr ⟨hyear, Or.inr ⟨hmonth, hday'⟩⟩)
    omega
  · have hless : t.ofDay < t'.ofDay := by
      obtain ⟨-, -, hminute, hsecond, hmicrosecond, -⟩ := h
      simp only [ofDay]
      omega
    rw [hyear, hmonth, hday']
    omega

/-- **Dates and times of day are in the order of what they show**, the year compared first and the
microsecond last. -/
theorem instant_add_offset_lt_iff (h : t.IsWellFormed) (h' : t'.IsWellFormed) :
    t.instant + t.offset < t'.instant + t'.offset ↔ t.fields < t'.fields := by
  refine ⟨fun hlt => ?_, instant_add_offset_lt h h'⟩
  rcases lt_trichotomy t.fields t'.fields with hless | hsame | hmore
  · exact hless
  · have hequal : t.instant + t.offset = t'.instant + t'.offset := by
      simp only [fields, List.cons.injEq, and_true] at hsame
      obtain ⟨hyear, hmonth, hday, hhour, hminute, hsecond, hmicrosecond⟩ := hsame
      rw [instant_add_offset, instant_add_offset, ofDay, ofDay, hyear, hmonth, hday, hhour, hminute,
        hsecond, hmicrosecond]
    exact absurd hlt hequal.not_lt
  · exact absurd (instant_add_offset_lt h' h hmore) hlt.asymm

/-- The instants of the years 1 to 9999 are far from what a double cannot hold. -/
theorem IsWellFormed.natAbs_instant_le (h : t.IsWellFormed) :
    t.instant.natAbs ≤ 2 ^ 53 * 1000000 := by
  have hinstant := instant_add_offset t
  have hordinal := Calendar.ordinal_le h.date
  have hfirst : Calendar.ordinal 1970 1 1 = 719163 := by decide
  have hday := h.ofDay_lt
  have hoffset := h.offset
  rw [hfirst] at hinstant
  omega

end Order

end Catalogue.Timestamp
