import Mathlib
import Catalogue.Text.Utf8

/-!
# Texts and their bytes

The bytes of a text are read back as the text (`Utf8.decode_encode`).  In such bytes every byte of
ASCII is a character by itself, so that what stands before it and what follows it are the bytes of
texts as well (`Utf8.IsEncoded.split`).
-/

namespace Catalogue.Text.Utf8

/-- The bytes are those of some text. -/
def IsEncoded (bytes : List UInt8) : Prop :=
  ∃ cs, bytes = encode cs

theorem toNat_byte {n : Nat} (h : n < 256) : (UInt8.ofNat n).toNat = n :=
  UInt8.toNat_ofNat_of_lt' h

/-- A byte of ASCII is a character by itself. -/
theorem opening_single (position : Nat) {n : Nat} (h : n < 0x80) :
    opening position (UInt8.ofNat n) = .single (Char.ofNat n) := by
  simp only [opening, toNat_byte (show n < 256 by omega)]
  rw [if_pos h]

/-- A first byte that one more has to follow.  The numbers 0 and 1 would be those of ASCII. -/
theorem opening_two (position : Nat) {n : Nat} (hlow : 2 ≤ n) (hhigh : n < 32) :
    opening position (UInt8.ofNat (0xC0 + n)) =
      .sequence ⟨position, UInt8.ofNat (0xC0 + n), 1, 1, 0x80, 0xBF, n⟩ := by
  simp only [opening, toNat_byte (show 0xC0 + n < 256 by omega)]
  rw [if_neg (by omega), if_neg (by omega), if_pos (by omega), Nat.add_sub_cancel_left]

/-- A first byte that two more have to follow.  The second one is bounded so that the character
needs three bytes and is no surrogate. -/
theorem opening_three (position : Nat) {n : Nat} (h : n < 16) :
    opening position (UInt8.ofNat (0xE0 + n)) =
      .sequence ⟨position, UInt8.ofNat (0xE0 + n), 1, 2, if n = 0 then 0xA0 else 0x80,
        if n = 13 then 0x9F else 0xBF, n⟩ := by
  simp only [opening, toNat_byte (show 0xE0 + n < 256 by omega)]
  rw [if_neg (by omega), if_neg (by omega), if_neg (by omega), if_pos (by omega),
    Nat.add_sub_cancel_left]
  simp only [show 0xE0 + n = 0xE0 ↔ n = 0 by omega, show 0xE0 + n = 0xED ↔ n = 13 by omega]

/-- A first byte that three more have to follow.  The second one is bounded so that the character
needs four bytes and exists. -/
theorem opening_four (position : Nat) {n : Nat} (h : n < 5) :
    opening position (UInt8.ofNat (0xF0 + n)) =
      .sequence ⟨position, UInt8.ofNat (0xF0 + n), 1, 3, if n = 0 then 0x90 else 0x80,
        if n = 4 then 0x8F else 0xBF, n⟩ := by
  simp only [opening, toNat_byte (show 0xF0 + n < 256 by omega)]
  rw [if_neg (by omega), if_neg (by omega), if_neg (by omega), if_neg (by omega),
    if_pos (by omega), Nat.add_sub_cancel_left]
  simp only [show 0xF0 + n = 0xF0 ↔ n = 0 by omega, show 0xF0 + n = 0xF4 ↔ n = 4 by omega]

/-- The last bytes of a sequence, each with six bits of a number. -/
def continuations (n : Nat) : Nat → List UInt8
  | 0 => []
  | count + 1 => UInt8.ofNat (0x80 + n / 64 ^ count % 64) :: continuations n count

/-- A byte that continues a sequence adds six bits to its number. -/
theorem readFrom_continuation (position : Nat) (done : List Char) {p : Pending}
    (rest : List UInt8) {n : Nat} (hn : n < 64) (hlow : p.low ≤ 0x80 + n)
    (hhigh : 0x80 + n ≤ p.high) :
    readFrom position done (some p) (UInt8.ofNat (0x80 + n) :: rest) =
      if p.missing = 1 then
        readFrom (position + 1) (Char.ofNat (p.value * 64 + n) :: done) none rest
      else
        readFrom (position + 1) done
          (some ⟨p.position, p.first, p.length + 1, p.missing - 1, 0x80, 0xBF, p.value * 64 + n⟩)
          rest := by
  have hbyte : (UInt8.ofNat (0x80 + n)).toNat = 0x80 + n := toNat_byte (by omega)
  rw [readFrom]
  simp only [hbyte, hlow, hhigh, and_self, if_true, Nat.add_sub_cancel_left]

/-- The bytes that a sequence is still missing complete the number of a character.  What has been
read before bounds only the first of them. -/
theorem readFrom_continuations (position : Nat) (done : List Char) {p : Pending}
    (rest : List UInt8) {n count : Nat} (hmissing : p.missing = count + 1)
    (hvalue : p.value = n / 64 ^ (count + 1)) (hlow : p.low ≤ 0x80 + n / 64 ^ count % 64)
    (hhigh : 0x80 + n / 64 ^ count % 64 ≤ p.high) :
    readFrom position done (some p) (continuations n (count + 1) ++ rest) =
      readFrom (position + (count + 1)) (Char.ofNat n :: done) none rest := by
  have hbits : ∀ count, n / 64 ^ count % 64 < 64 := fun _ => Nat.mod_lt _ (by decide)
  have hnumber : ∀ count, n / 64 ^ (count + 1) * 64 + n / 64 ^ count % 64 = n / 64 ^ count := by
    intro count
    rw [Nat.pow_succ, ← Nat.div_div_eq_div_mul]
    exact Nat.div_add_mod' _ _
  induction count generalizing position p with
  | zero =>
      rw [continuations, List.cons_append,
        readFrom_continuation position done _ (hbits 0) hlow hhigh, if_pos hmissing, hvalue,
        hnumber, Nat.pow_zero, Nat.div_one]
      rfl
  | succ count ih =>
      have hmore : ¬ p.missing = 1 := by omega
      have hhigh' := hbits count
      rw [continuations, List.cons_append,
        readFrom_continuation position done _ (hbits (count + 1)) hlow hhigh, if_neg hmore, hvalue,
        hnumber, ih (position + 1) (by dsimp only; omega) rfl (Nat.le_add_right _ _)
          (by dsimp only; omega), Nat.add_assoc, Nat.add_comm 1]

/-- A character is read back from its bytes. -/
theorem readFrom_encodeChar (position : Nat) (done : List Char) (c : Char) (rest : List UInt8) :
    readFrom position done none (encodeChar c ++ rest) =
      readFrom (position + (encodeChar c).length) (c :: done) none rest := by
  have hvalid : c.toNat < 0xD800 ∨ 0xDFFF < c.toNat ∧ c.toNat < 0x110000 := c.valid
  unfold encodeChar
  dsimp only
  split_ifs with hone htwo hthree
  · rw [List.singleton_append, readFrom, opening_single position hone, Char.ofNat_toNat]
    rfl
  · have hbytes : [UInt8.ofNat (0xC0 + c.toNat / 64), UInt8.ofNat (0x80 + c.toNat % 64)] =
        UInt8.ofNat (0xC0 + c.toNat / 64) :: continuations c.toNat 1 := by
      simp [continuations]
    rw [hbytes, List.cons_append, readFrom, opening_two position (by omega) (by omega)]
    dsimp only
    rw [readFrom_continuations _ _ _ rfl rfl (by dsimp only; omega) (by dsimp only; omega),
      Char.ofNat_toNat]
    rfl
  · have hbytes : [UInt8.ofNat (0xE0 + c.toNat / 4096), UInt8.ofNat (0x80 + c.toNat / 64 % 64),
        UInt8.ofNat (0x80 + c.toNat % 64)] =
          UInt8.ofNat (0xE0 + c.toNat / 4096) :: continuations c.toNat 2 := by
      simp [continuations]
    rw [hbytes, List.cons_append, readFrom, opening_three position (by omega)]
    dsimp only
    rw [readFrom_continuations _ _ _ rfl rfl (by dsimp only; split_ifs <;> omega)
      (by dsimp only; split_ifs <;> omega), Char.ofNat_toNat]
    rfl
  · have hbytes : [UInt8.ofNat (0xF0 + c.toNat / 262144),
        UInt8.ofNat (0x80 + c.toNat / 4096 % 64), UInt8.ofNat (0x80 + c.toNat / 64 % 64),
        UInt8.ofNat (0x80 + c.toNat % 64)] =
          UInt8.ofNat (0xF0 + c.toNat / 262144) :: continuations c.toNat 3 := by
      simp [continuations]
    rw [hbytes, List.cons_append, readFrom, opening_four position (by omega)]
    dsimp only
    rw [readFrom_continuations _ _ _ rfl rfl (by dsimp only; split_ifs <;> omega)
      (by dsimp only; split_ifs <;> omega), Char.ofNat_toNat]
    rfl

/-- **Reading back.**  The bytes of a text are decoded to the text. -/
theorem decode_encode (cs : List Char) : decode (encode cs) = .ok cs := by
  have hall : ∀ (position : Nat) (done : List Char),
      readFrom position done none (encode cs) = (done.reverse ++ cs, none) := by
    induction cs with
    | nil => simp [encode, readFrom]
    | cons c cs ih =>
        intro position done
        rw [encode, List.flatMap_cons, ← encode, readFrom_encodeChar, ih, List.reverse_cons,
          List.append_assoc, List.singleton_append]
  rw [decode, read, hall]
  rfl

theorem isEncoded_nil : IsEncoded [] :=
  ⟨[], rfl⟩

/-- Two texts one behind the other are a text. -/
theorem IsEncoded.append {xs ys : List UInt8} (hxs : IsEncoded xs) (hys : IsEncoded ys) :
    IsEncoded (xs ++ ys) := by
  obtain ⟨cs, rfl⟩ := hxs
  obtain ⟨ds, rfl⟩ := hys
  exact ⟨cs ++ ds, by rw [encode, encode, encode, List.flatMap_append]⟩

theorem isEncoded_encodeChar (c : Char) : IsEncoded (encodeChar c) :=
  ⟨[c], by rw [encode, List.flatMap_singleton]⟩

/-- A byte of ASCII is a character. -/
theorem isEncoded_singleton {b : UInt8} (h : b.toNat < 0x80) : IsEncoded [b] := by
  have hchar : (Char.ofNat b.toNat).toNat = b.toNat := by
    rw [Char.toNat_ofNat, if_pos (Or.inl (by omega))]
  have hbyte : encodeChar (Char.ofNat b.toNat) = [b] := by
    simp only [encodeChar, hchar, h, if_true, UInt8.ofNat_toNat]
  exact hbyte ▸ isEncoded_encodeChar _

/-- The bytes of a character outside ASCII are outside ASCII. -/
theorem le_of_mem_encodeChar {c : Char} {b : UInt8} (hc : 0x80 ≤ c.toNat)
    (hb : b ∈ encodeChar c) : 0x80 ≤ b.toNat := by
  have hvalid : c.toNat < 0xD800 ∨ 0xDFFF < c.toNat ∧ c.toNat < 0x110000 := c.valid
  simp only [encodeChar, if_neg (Nat.not_lt.mpr hc)] at hb
  split_ifs at hb
  all_goals
    simp only [List.mem_cons, List.not_mem_nil, or_false] at hb
    rcases hb with rfl | rfl | rfl | rfl <;> rw [toNat_byte (by omega)] <;> omega

/-- A byte of ASCII among those of a character is the only one. -/
theorem encodeChar_eq_singleton {c : Char} {b : UInt8} (hb : b ∈ encodeChar c)
    (h : b.toNat < 0x80) : encodeChar c = [b] := by
  by_cases hc : 0x80 ≤ c.toNat
  · exact absurd (le_of_mem_encodeChar hc hb) (by omega)
  · simp only [encodeChar, Nat.lt_of_not_le hc, if_true, List.mem_singleton] at hb ⊢
    rw [hb]

/-- **Boundaries.**  Where a byte of ASCII stands among the bytes of a text, a character ends before
it and one begins after it. -/
theorem IsEncoded.split {xs ys : List UInt8} {b : UInt8} (h : IsEncoded (xs ++ b :: ys))
    (hb : b.toNat < 0x80) : IsEncoded xs ∧ IsEncoded ys := by
  obtain ⟨cs, hcs⟩ := h
  induction cs generalizing xs with
  | nil => simp [encode] at hcs
  | cons c cs ih =>
      rw [encode, List.flatMap_cons, ← encode, List.append_eq_append_iff] at hcs
      rcases hcs with ⟨zs, hchar, hrest⟩ | ⟨zs, hxs, hrest⟩
      · cases zs with
        | nil =>
            rw [List.append_nil] at hchar
            have hbegins : [] ++ b :: ys = encode cs := hrest
            exact ⟨hchar ▸ isEncoded_encodeChar c, (ih hbegins).2⟩
        | cons first zs =>
            obtain ⟨rfl, rfl⟩ := List.cons.inj hrest
            have hmem : b ∈ encodeChar c := hchar ▸ List.mem_append_cons_self
            rw [encodeChar_eq_singleton hmem hb, List.singleton_eq_append_iff] at hchar
            obtain ⟨rfl, hzs⟩ | ⟨-, hzs⟩ := hchar
            · obtain ⟨-, rfl⟩ := List.cons.inj hzs
              exact ⟨isEncoded_nil, cs, rfl⟩
            · exact absurd hzs (List.cons_ne_nil _ _)
      · obtain ⟨hbefore, hafter⟩ := ih hrest.symm
        rw [hxs]
        exact ⟨(isEncoded_encodeChar c).append hbefore, hafter⟩

/-- Behind a byte of ASCII the bytes are those of a text again. -/
theorem IsEncoded.tail {rest : List UInt8} {b : UInt8} (h : IsEncoded (b :: rest))
    (hb : b.toNat < 0x80) : IsEncoded rest := by
  have hsplit : IsEncoded ([] ++ b :: rest) := h
  exact (hsplit.split hb).2

end Catalogue.Text.Utf8
