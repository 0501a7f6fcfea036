import Mathlib
import Catalogue.Proofs.Number.Integer
import Catalogue.TagColor

/-!
# The hash of tags in doubles

Only the shift in the hash works on 32 bits.  What it gives has the same last 32 bits as the hash
times 32, so the hash is a polynomial in 31 modulo 2³² (`hashUnits_modEq`).  It is added to the
whole hash, which grows by little more than 2³¹ with every unit (`natAbs_hashUnits_le`).

Where there are no numbers but doubles, as in the script of a web page, the same hash is computed
with sums that are rounded and a shift that sees the last 32 bits of a double (`doubleHash`).  For
texts of up to 2²¹ units it stays below 2⁵³, so that nothing is rounded, and every tag has the same
colour there (`hash_eq_doubleHash`).
-/

namespace Catalogue.TagColor

open Binary64 (ofInt)

/-- The UTF-16 form of a text.  A character up to U+FFFF is one unit; of any other one, two
surrogates hold ten bits each of what exceeds U+FFFF. -/
inductive IsUtf16 : List Char → List Nat → Prop
  | nil : IsUtf16 [] []
  | unit {c : Char} {s : List Char} {us : List Nat} (hc : c.toNat < 0x10000)
      (rest : IsUtf16 s us) : IsUtf16 (c :: s) (c.toNat :: us)
  | pair {c : Char} {s : List Char} {us : List Nat} {high low : Nat} (hhigh : high < 0x400)
      (hlow : low < 0x400) (hc : c.toNat = 0x10000 + high * 0x400 + low)
      (rest : IsUtf16 s us) : IsUtf16 (c :: s) ((0xD800 + high) :: (0xDC00 + low) :: us)

/-- The units of a text are its UTF-16 form. -/
theorem isUtf16_flatMap (s : List Char) : IsUtf16 s (s.flatMap unitsOfChar) := by
  induction s with
  | nil => exact .nil
  | cons c s ih =>
      rw [List.flatMap_cons, unitsOfChar]
      by_cases hc : c.toNat < 0x10000
      · rw [if_pos hc]
        exact .unit hc ih
      · have hvalid : c.toNat < 0xD800 ∨ 0xDFFF < c.toNat ∧ c.toNat < 0x110000 := c.valid
        rw [if_neg hc]
        exact .pair (by omega) (by omega) (by omega) ih

/-- A text has one UTF-16 form only. -/
theorem IsUtf16.unique {s : List Char} {us other : List Nat} (h : IsUtf16 s us)
    (hother : IsUtf16 s other) : us = other := by
  induction h generalizing other with
  | nil =>
      cases hother
      rfl
  | unit hc rest ih =>
      cases hother with
      | unit hc' rest' => rw [ih rest']
      | pair hhigh hlow hc' rest' => omega
  | @pair c s us high low hhigh hlow hc rest ih =>
      cases hother with
      | unit hc' rest' => omega
      | @pair _ _ us' high' low' hhigh' hlow' hc' rest' =>
          have hhighs : high = high' := by omega
          have hlows : low = low' := by omega
          rw [hhighs, hlows, ih rest']

/-- Units have 16 bits. -/
theorem IsUtf16.lt {s : List Char} {us : List Nat} (h : IsUtf16 s us) : ∀ u ∈ us, u < 2 ^ 16 := by
  induction h with
  | nil => simp
  | unit hc rest ih => exact List.forall_mem_cons.mpr ⟨hc, ih⟩
  | pair hhigh hlow hc rest ih =>
      exact List.forall_mem_cons.mpr ⟨by omega, List.forall_mem_cons.mpr ⟨by omega, ih⟩⟩

/-- Wrapping keeps the last 32 bits. -/
theorem wrap32_modEq (n : Int) : wrap32 n ≡ n [ZMOD 2 ^ 32] :=
  Int.bmod_emod

/-- What is wrapped has 32 bits with its sign. -/
theorem natAbs_wrap32_le (n : Int) : (wrap32 n).natAbs ≤ 2 ^ 31 := by
  have hlow : -((0x100000000 : Nat) / 2 : Int) ≤ wrap32 n := Int.le_bmod (by decide)
  have hhigh : wrap32 n < ((0x100000000 : Nat) + 1) / 2 := Int.bmod_lt (by decide)
  omega

/-- **One unit** multiplies the hash by 31 and is added, modulo 2³². -/
theorem step_modEq (h : Int) (u : Nat) : step h u ≡ 31 * h + u [ZMOD 2 ^ 32] := by
  have hshift : wrap32 (wrap32 h * 32) ≡ h * 32 [ZMOD 2 ^ 32] :=
    (wrap32_modEq _).trans ((wrap32_modEq h).mul_right 32)
  calc step h u = u + (wrap32 (wrap32 h * 32) - h) := rfl
    _ ≡ u + (h * 32 - h) [ZMOD 2 ^ 32] := (hshift.sub_right h).add_left u
    _ = 31 * h + u := by ring

/-- **One unit** makes the hash grow by 2³¹ and the unit at most. -/
theorem natAbs_step_le (h : Int) {u : Nat} (hu : u < 2 ^ 16) :
    (step h u).natAbs ≤ h.natAbs + (2 ^ 31 + 2 ^ 16) := by
  have hshift := natAbs_wrap32_le (wrap32 h * 32)
  rw [step]
  omega

/-- The hash of code units.  They need not be a text: a surrogate may stand alone. -/
def hashUnits (us : List Nat) : Int :=
  us.foldl step 0

/-- The place in the palette that code units give. -/
def indexUnits (us : List Nat) : Nat :=
  (hashUnits us).natAbs % palette.length

theorem hashUnits_concat (us : List Nat) (u : Nat) :
    hashUnits (us ++ [u]) = step (hashUnits us) u := by
  rw [hashUnits, List.foldl_concat, hashUnits]

/-- The hash of a text is that of its UTF-16 form. -/
theorem hash_eq_hashUnits {s : String} {us : List Nat} (h : IsUtf16 s.toList us) :
    hash s = hashUnits us := by
  have hunits : units s = us := (isUtf16_flatMap s.toList).unique h
  rw [hash, hunits, hashUnits]

/-- **The hash** grows by little more than 2³¹ with every unit. -/
theorem natAbs_hashUnits_le {us : List Nat} (hus : ∀ u ∈ us, u < 2 ^ 16) :
    (hashUnits us).natAbs ≤ us.length * (2 ^ 31 + 2 ^ 16) := by
  induction us using List.reverseRecOn with
  | nil => decide
  | append_singleton us u ih =>
      obtain ⟨hbefore, hlast⟩ := List.forall_mem_append.mp hus
      have hgrow := natAbs_step_le (hashUnits us) (hlast u (List.mem_singleton_self u))
      have hrun := ih hbefore
      rw [hashUnits_concat, List.length_append, List.length_singleton, Nat.succ_mul]
      omega

/-- The polynomial with the given coefficients, highest first, at 31. -/
def polynomial (us : List Nat) : Int :=
  ∑ i : Fin us.length, (us[i] : Int) * 31 ^ (us.length - 1 - i)

/-- The first unit has the highest power. -/
theorem polynomial_cons (u : Nat) (us : List Nat) :
    polynomial (u :: us) = u * 31 ^ us.length + polynomial us := by
  rw [polynomial, polynomial]
  refine (Fin.sum_univ_succ _).trans ?_
  refine congrArg₂ _ rfl (Finset.sum_congr rfl fun i _ => ?_)
  have hpower : (u :: us).length - 1 - (i.succ : Nat) = us.length - 1 - i := by
    rw [List.length_cons, Fin.val_succ]
    omega
  rw [hpower]
  rfl

/-- A run of units multiplies the hash by a power of 31 and adds the polynomial. -/
theorem foldl_step_modEq (us : List Nat) (h : Int) :
    us.foldl step h ≡ h * 31 ^ us.length + polynomial us [ZMOD 2 ^ 32] := by
  induction us generalizing h with
  | nil => simp [polynomial]
  | cons u us ih =>
      calc us.foldl step (step h u)
          ≡ step h u * 31 ^ us.length + polynomial us [ZMOD 2 ^ 32] := ih _
        _ ≡ (31 * h + u) * 31 ^ us.length + polynomial us [ZMOD 2 ^ 32] :=
          ((step_modEq h u).mul_right _).add_right _
        _ = h * 31 ^ (us.length + 1) + polynomial (u :: us) := by
          rw [polynomial_cons]
          ring

/-- **The hash** is a polynomial of the units modulo 2³². -/
theorem hashUnits_modEq (us : List Nat) : hashUnits us ≡ polynomial us [ZMOD 2 ^ 32] := by
  have hrun := foldl_step_modEq us 0
  rwa [Int.zero_mul, Int.zero_add] at hrun

/-- The hash after one more code unit where all numbers are doubles. -/
def doubleStep (h : Binary64) (u : Nat) : Binary64 :=
  (ofInt u).add ((h.shiftLeft 5).sub h)

/-- The hash of code units where all numbers are doubles. -/
def doubleHash (us : List Nat) : Binary64 :=
  us.foldl doubleStep (ofInt 0)

/-- The place of the colour in the palette where all numbers are doubles. -/
def doubleIndex (us : List Nat) : Binary64 :=
  (doubleHash us).abs.rem palette.length

/-- The word of an integer, shifted, is what the hash adds. -/
theorem toInt_shiftLeft (h : Int) : (BitVec.ofInt 32 h <<< 5).toInt = wrap32 (wrap32 h * 32) := by
  rw [BitVec.shiftLeft_eq_mul_twoPow, BitVec.toInt_mul, BitVec.toInt_ofInt]
  rfl

/-- **One unit in doubles**: nothing is rounded as long as the hash is small. -/
theorem doubleStep_ofInt {h : Int} {u : Nat} (hu : u < 2 ^ 16)
    (hh : h.natAbs + (2 ^ 31 + 2 ^ 16) ≤ 2 ^ 53) : doubleStep (ofInt h) u = ofInt (step h u) := by
  have hshift := natAbs_wrap32_le (wrap32 h * 32)
  rw [doubleStep, Binary64.shiftLeft, Binary64.word_ofInt (by omega), toInt_shiftLeft,
    Binary64.sub_ofInt (by omega) (by omega) (by omega),
    Binary64.add_ofInt (by omega) (by omega) (by omega), step]

/-- **All units in doubles**: nothing is rounded up to 2²¹ of them. -/
theorem doubleHash_eq_ofInt {us : List Nat} (hus : ∀ u ∈ us, u < 2 ^ 16)
    (hlength : us.length ≤ 2 ^ 21) : doubleHash us = ofInt (hashUnits us) := by
  induction us using List.reverseRecOn with
  | nil => rw [doubleHash, hashUnits, List.foldl_nil, List.foldl_nil]
  | append_singleton us u ih =>
      obtain ⟨hbefore, hlast⟩ := List.forall_mem_append.mp hus
      rw [List.length_append, List.length_singleton] at hlength
      have hsmall : (hashUnits us).natAbs + (2 ^ 31 + 2 ^ 16) ≤ 2 ^ 53 := by
        have hrun := natAbs_hashUnits_le hbefore
        omega
      have hrun := ih hbefore (by omega)
      rw [doubleHash] at hrun
      rw [doubleHash, List.foldl_concat, hrun, hashUnits_concat,
        doubleStep_ofInt (hlast u (List.mem_singleton_self u)) hsmall]

/-- The place in the palette is the same in doubles. -/
theorem doubleIndex_eq_ofInt {us : List Nat} (hus : ∀ u ∈ us, u < 2 ^ 16)
    (hlength : us.length ≤ 2 ^ 21) : doubleIndex us = ofInt (indexUnits us) := by
  have hsmall : (hashUnits us).natAbs ≤ 2 ^ 53 := by
    have hrun := natAbs_hashUnits_le hus
    omega
  rw [doubleIndex, doubleHash_eq_ofInt hus hlength, Binary64.abs_ofInt hsmall,
    Binary64.rem_ofInt hsmall, indexUnits]

/-- **The hash** of units is a polynomial of them modulo 2³² and grows by little more than 2³¹ with
each of them.  For up to 2²¹ units it is the hash in doubles, and the place in the palette is that
in doubles.  A text has the hash and the colour of its UTF-16 form. -/
theorem hash_eq_doubleHash {us : List Nat} (hus : ∀ u ∈ us, u < 2 ^ 16) :
    (∀ k ≤ us.length, (hashUnits (us.take k)).natAbs ≤ k * (2 ^ 31 + 2 ^ 16)) ∧
      hashUnits us ≡ polynomial us [ZMOD 2 ^ 32] ∧
      (us.length ≤ 2 ^ 21 →
        doubleHash us = ofInt (hashUnits us) ∧ doubleIndex us = ofInt (indexUnits us)) ∧
      ∀ s : String, IsUtf16 s.toList us → hash s = hashUnits us ∧ index s = indexUnits us := by
  refine ⟨fun k hk => ?_, hashUnits_modEq us, fun hlength => ?_, fun s hs => ?_⟩
  · have hfirst : ∀ u ∈ us.take k, u < 2 ^ 16 := fun u hu => hus u (List.mem_of_mem_take hu)
    have hrun := natAbs_hashUnits_le hfirst
    rwa [List.length_take, Nat.min_eq_left hk] at hrun
  · exact ⟨doubleHash_eq_ofInt hus hlength, doubleIndex_eq_ofInt hus hlength⟩
  · have hhash := hash_eq_hashUnits hs
    rw [index, hhash, indexUnits]
    exact ⟨rfl, rfl⟩

/-- The code units of a text of four smileys, each beyond U+FFFF. -/
def smileys : List Nat := [0xD83D, 0xDE00, 0xD83D, 0xDE00, 0xD83D, 0xDE00, 0xD83D, 0xDE00]

/-- The hash of eight units leaves 32 bits. -/
theorem hash_eq_doubleHash_smileys :
    IsUtf16 "😀😀😀😀".toList smileys ∧ hash "😀😀😀😀" = 4342032652 ∧
      doubleHash smileys = ofInt 4342032652 ∧ doubleIndex smileys = ofInt 7 := by
  have hsmiley : ∀ {s us}, IsUtf16 s us → IsUtf16 ('😀' :: s) (0xD83D :: 0xDE00 :: us) := fun h =>
    @IsUtf16.pair '😀' _ _ 0x3D 0x200 (by decide) (by decide) (by decide) h
  have hform : IsUtf16 "😀😀😀😀".toList smileys :=
    hsmiley (hsmiley (hsmiley (hsmiley .nil)))
  obtain ⟨-, -, hdoubles, htexts⟩ := hash_eq_doubleHash hform.lt
  obtain ⟨hdouble, hplace⟩ := hdoubles (by decide)
  have hunits : hashUnits smileys = 4342032652 := by decide +kernel
  have hindex : indexUnits smileys = 7 := by decide +kernel
  rw [hunits] at hdouble
  rw [hindex] at hplace
  exact ⟨hform, (htexts _ hform).1.trans hunits, hdouble, hplace⟩

end Catalogue.TagColor
