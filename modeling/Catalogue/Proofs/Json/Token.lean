import Mathlib
import Catalogue.Json.Token
import Catalogue.Proofs.Text.Utf8

/-!
# What tokens take from a document

A token that is no text takes bytes of ASCII only (`Skips`), and a text ends at a quote, which is a
byte of ASCII too.  So the bytes of a text are cut into tokens between characters, and the texts
among these tokens are again the bytes of texts (`Token.isEncoded_of_scan?`).  An opening bracket is
one byte of the document (`Token.openings_of_scan?`).
-/

namespace Catalogue.Json

open Text.Utf8 (IsEncoded)

/-- The second byte sequence is what follows some bytes of ASCII in the first one. -/
def Skips (bytes rest : List UInt8) : Prop :=
  ∃ taken, bytes = taken ++ rest ∧ ∀ b ∈ taken, b.toNat < 0x80

theorem Skips.refl (bytes : List UInt8) : Skips bytes bytes :=
  ⟨[], rfl, by simp⟩

theorem Skips.trans {bytes middle rest : List UInt8} (h : Skips bytes middle)
    (hrest : Skips middle rest) : Skips bytes rest := by
  obtain ⟨taken, rfl, htaken⟩ := h
  obtain ⟨more, rfl, hmore⟩ := hrest
  refine ⟨taken ++ more, (List.append_assoc _ _ _).symm, fun b hb => ?_⟩
  exact (List.mem_append.mp hb).elim (htaken b) (hmore b)

theorem Skips.cons {b : UInt8} {bytes rest : List UInt8} (hb : b.toNat < 0x80)
    (h : Skips bytes rest) : Skips (b :: bytes) rest := by
  obtain ⟨taken, rfl, htaken⟩ := h
  exact ⟨b :: taken, rfl, List.forall_mem_cons.mpr ⟨hb, htaken⟩⟩

/-- Skipping leaves an end of the bytes. -/
theorem Skips.suffix {bytes rest : List UInt8} (h : Skips bytes rest) : rest <:+ bytes := by
  obtain ⟨taken, rfl, -⟩ := h
  exact List.suffix_append taken rest

/-- What follows skipped bytes begins with a character. -/
theorem Skips.isEncoded {bytes rest : List UInt8} (h : Skips bytes rest)
    (hbytes : IsEncoded bytes) : IsEncoded rest := by
  obtain ⟨taken, rfl, htaken⟩ := h
  induction taken with
  | nil => exact hbytes
  | cons b taken ih =>
      obtain ⟨hb, hmore⟩ := List.forall_mem_cons.mp htaken
      exact ih hmore (IsEncoded.tail hbytes hb)

/-- Skipping the bytes of ASCII that satisfy a condition. -/
theorem skips_dropWhile {p : UInt8 → Bool} (hp : ∀ b, p b = true → b.toNat < 0x80)
    (bytes : List UInt8) : Skips bytes (bytes.dropWhile p) :=
  ⟨bytes.takeWhile p, List.takeWhile_append_dropWhile.symm,
    fun b hb => hp b (List.all_eq_true.mp List.all_takeWhile b hb)⟩

namespace Token

/-- Blanks between tokens are bytes of ASCII. -/
theorem isBlankByte_lt {b : UInt8} (h : isBlankByte b = true) : b.toNat < 0x80 := by
  simp only [isBlankByte, Bool.or_eq_true, decide_eq_true_eq] at h
  rcases h with ((rfl | rfl) | rfl) | rfl <;> decide

theorem isDigitByte_lt {b : UInt8} (h : isDigitByte b = true) : b.toNat < 0x80 := by
  simp only [isDigitByte, Bool.and_eq_true, decide_eq_true_eq, UInt8.le_iff_toNat_le] at h
  exact Nat.lt_of_le_of_lt h.2 (by decide)

/-- A fraction is written in bytes of ASCII, with its point or not at all. -/
theorem skips_fraction? {bytes digits rest : List UInt8}
    (h : fraction? bytes = some (digits, rest)) : Skips bytes rest := by
  rw [fraction?.eq_def] at h
  split at h
  · split at h
    · simp at h
    · next after _ _ =>
        simp only [Option.some.injEq, Prod.mk.injEq] at h
        exact h.2 ▸ (skips_dropWhile (fun _ => isDigitByte_lt) after).cons (by decide)
  · simp only [Option.some.injEq, Prod.mk.injEq] at h
    exact h.2 ▸ Skips.refl _

theorem skips_splitSign (bytes : List UInt8) : Skips bytes (splitSign bytes).2 := by
  rw [splitSign.eq_def]
  split
  · exact (Skips.refl _).cons (by decide)
  · exact (Skips.refl _).cons (by decide)
  · exact Skips.refl _

/-- An exponent is written in bytes of ASCII, with its letter and sign or not at all. -/
theorem skips_exponent? {bytes rest : List UInt8} {exponent : Option Int}
    (h : exponent? bytes = some (exponent, rest)) : Skips bytes rest := by
  cases bytes with
  | nil =>
      simp only [exponent?, Option.some.injEq, Prod.mk.injEq] at h
      exact h.2 ▸ Skips.refl _
  | cons e bytes =>
      simp only [exponent?] at h
      split at h
      · next he =>
          split at h
          · simp at h
          · simp only [Option.some.injEq, Prod.mk.injEq] at h
            have hsign := skips_splitSign bytes
            have hdigits := skips_dropWhile (fun _ => isDigitByte_lt) (splitSign bytes).2
            refine h.2 ▸ (hsign.trans hdigits).cons ?_
            rcases he with rfl | rfl
            · decide
            · decide
      · simp only [Option.some.injEq, Prod.mk.injEq] at h
        exact h.2 ▸ Skips.refl _

/-- A number is written in bytes of ASCII. -/
theorem skips_number? {negative : Bool} {bytes rest : List UInt8} {value : Json}
    (h : number? negative bytes = some (value, rest)) : Skips bytes rest := by
  rw [number?] at h
  split at h
  · simp at h
  · simp at h
  · simp only [Option.bind_eq_bind, Option.bind_eq_some_iff] at h
    obtain ⟨⟨fraction, middle⟩, hfraction, ⟨exponent, after⟩, hexponent, _, _, hsame⟩ := h
    simp only [Option.pure_def, Option.some.injEq, Prod.mk.injEq] at hsame
    have hwhole := skips_dropWhile (fun _ => isDigitByte_lt) bytes
    have hmore := (skips_fraction? hfraction).trans (skips_exponent? hexponent)
    exact hsame.2 ▸ hwhole.trans hmore

/-- A named literal is written in bytes of ASCII. -/
theorem skips_name? {bytes rest : List UInt8} {value : Json}
    (h : name? bytes = some (value, rest)) : Skips bytes rest := by
  obtain ⟨⟨spelling, v⟩, hmem, hfound⟩ := List.exists_of_findSome?_eq_some h
  simp only at hfound
  split at hfound
  · next hprefix =>
      obtain ⟨more, rfl⟩ := List.isPrefixOf_iff_prefix.mp hprefix
      have hascii : ∀ entry ∈ names, ∀ b ∈ entry.1, b.toNat < 0x80 := by simp [names]
      simp only [Option.some.injEq, Prod.mk.injEq, List.drop_left] at hfound
      exact ⟨spelling, by rw [hfound.2], hascii _ hmem⟩
  · simp at hfound

/-- Hexadecimal digits are bytes of ASCII. -/
theorem toNat_lt_of_hexValue? {b : UInt8} {n : Nat} (h : hexValue? b = some n) :
    b.toNat < 0x80 := by
  simp only [hexValue?, UInt8.le_iff_toNat_le] at h
  split_ifs at h with hdigit hupper hlower
  · exact Nat.lt_of_le_of_lt hdigit.2 (by decide)
  · exact Nat.lt_of_le_of_lt hupper.2 (by decide)
  · exact Nat.lt_of_le_of_lt hlower.2 (by decide)

/-- Four hexadecimal digits are skipped. -/
theorem skips_hexQuad? {a b c d : UInt8} {n : Nat} (h : hexQuad? a b c d = some n)
    (rest : List UInt8) : Skips (a :: b :: c :: d :: rest) rest := by
  simp only [hexQuad?, Option.bind_eq_bind, Option.bind_eq_some_iff] at h
  obtain ⟨_, ha, _, hb, _, hc, _, hd, -⟩ := h
  exact ((((Skips.refl rest).cons (toNat_lt_of_hexValue? hd)).cons
    (toNat_lt_of_hexValue? hc)).cons (toNat_lt_of_hexValue? hb)).cons (toNat_lt_of_hexValue? ha)

/-- The bytes that a numeric escape uses after its digits are skipped. -/
theorem skips_escapedChar? {n used : Nat} {rest : List UInt8} {c : Char}
    (h : escapedChar? n rest = some (c, used)) : Skips rest (rest.drop used) := by
  unfold escapedChar? at h
  split at h
  · split at h
    · next a b c d more =>
        simp only [Option.bind_eq_bind, Option.bind_eq_some_iff] at h
        obtain ⟨low, hlow, h⟩ := h
        split at h
        · simp only [Option.some.injEq, Prod.mk.injEq] at h
          rw [← h.2]
          exact ((skips_hexQuad? hlow more).cons (by decide)).cons (by decide)
        · simp at h
    · simp at h
  · split at h
    · simp at h
    · simp only [Option.some.injEq, Prod.mk.injEq] at h
      rw [← h.2]
      exact Skips.refl rest

/-- A numeric escape is written in bytes of ASCII. -/
theorem skips_numericEscape {a b c d : UInt8} {rest : List UInt8} {escaped : Char} {used : Nat}
    (h : (hexQuad? a b c d >>= fun n => escapedChar? n rest) = some (escaped, used)) :
    Skips (a :: b :: c :: d :: rest) (rest.drop used) := by
  obtain ⟨n, hdigits, hescaped⟩ := Option.bind_eq_some_iff.mp h
  exact (skips_hexQuad? hdigits rest).trans (skips_escapedChar? hescaped)

/-- An escaped byte is one of ASCII, and so is what it stands for. -/
theorem toNat_lt_of_simpleEscape? {e c : UInt8} (h : simpleEscape? e = some c) :
    e.toNat < 0x80 ∧ c.toNat < 0x80 := by
  unfold simpleEscape? at h
  split_ifs at h with hsame <;> cases h
  · rcases hsame with rfl | rfl | rfl <;> decide
  all_goals
    subst e
    decide

/-- **Texts of a text.**  Where the bytes read so far and those to come are the bytes of a text, so
are those of a text token and those after it. -/
theorem isEncoded_of_textBody {done bytes body rest : List UInt8}
    (h : textBody done bytes = some (body, rest)) (hbytes : IsEncoded (done.reverse ++ bytes)) :
    IsEncoded body ∧ IsEncoded rest := by
  fun_induction textBody done bytes with
  | case1 => simp at h
  | case2 =>
      simp only [Option.some.injEq, Prod.mk.injEq] at h
      obtain ⟨rfl, rfl⟩ := h
      exact hbytes.split (by decide)
  | case3 => simp at h
  | case4 done b rest _ _ _ ih =>
      refine ih h ?_
      rwa [List.reverse_cons, List.append_assoc, List.singleton_append]
  | case5 done b _ _ hescape _ _ _ _ rest escaped used hescaped ih =>
      have hbackslash : b.toNat < 0x80 := by
        rw [not_ne_iff.mp hescape]
        decide
      obtain ⟨hdone, hmore⟩ := hbytes.split hbackslash
      refine ih h ?_
      rw [List.reverse_append, List.reverse_reverse, List.append_assoc]
      exact hdone.append ((Text.Utf8.isEncoded_encodeChar escaped).append
        (((skips_numericEscape hescaped).cons (by decide)).isEncoded hmore))
  | case6 => simp at h
  | case7 done b _ _ hescape e rest _ c hescaped ih =>
      have hbackslash : b.toNat < 0x80 := by
        rw [not_ne_iff.mp hescape]
        decide
      obtain ⟨hdone, hmore⟩ := hbytes.split hbackslash
      obtain ⟨he, hc⟩ := toNat_lt_of_simpleEscape? hescaped
      refine ih h ?_
      rw [List.reverse_cons, List.append_assoc]
      exact hdone.append ((Text.Utf8.isEncoded_singleton hc).append
        (((Skips.refl rest).cons he).isEncoded hmore))
  | case8 => simp at h
  | case9 => simp at h

/-- What follows a text token is the end of the document. -/
theorem suffix_of_textBody {done bytes body rest : List UInt8}
    (h : textBody done bytes = some (body, rest)) : rest <:+ bytes := by
  fun_induction textBody done bytes with
  | case1 => simp at h
  | case2 =>
      simp only [Option.some.injEq, Prod.mk.injEq] at h
      exact h.2 ▸ List.suffix_cons _ _
  | case3 => simp at h
  | case4 _ _ _ _ _ _ ih => exact (ih h).trans (List.suffix_cons _ _)
  | case5 _ _ _ _ _ _ _ _ _ _ _ _ hescaped ih =>
      have hescape := ((skips_numericEscape hescaped).cons (b := 0x75) (by decide)).suffix
      exact ((ih h).trans hescape).trans (List.suffix_cons _ _)
  | case6 => simp at h
  | case7 _ _ _ _ _ _ _ _ _ _ ih =>
      exact (ih h).trans ((List.suffix_cons _ _).trans (List.suffix_cons _ _))
  | case8 => simp at h
  | case9 => simp at h

/-- The byte of a token that is a single mark. -/
def mark? : Token → Option UInt8
  | .openArray => some 0x5B
  | .closeArray => some 0x5D
  | .openObject => some 0x7B
  | .closeObject => some 0x7D
  | .comma => some 0x2C
  | .colon => some 0x3A
  | .literal _ => none
  | .text _ => none

/-- The first token is a mark, a text, or a value written in bytes of ASCII. -/
theorem scan?_cases {bytes rest : List UInt8} {token : Token}
    (h : scan? bytes = some (token, rest)) :
    (∃ b, token.mark? = some b ∧ bytes = b :: rest) ∨
      (∃ body more, token = .text body ∧ bytes = 0x22 :: more ∧
        textBody [] more = some (body, rest)) ∨
      ∃ value, token = .literal value ∧ Skips bytes rest := by
  cases bytes with
  | nil => simp [scan?] at h
  | cons b bytes =>
      have hmark : ∀ mark : Token, mark.mark? = some b → some (mark, bytes) = some (token, rest) →
          ∃ b', token.mark? = some b' ∧ b :: bytes = b' :: rest := by
        rintro mark hmark ⟨⟩
        exact ⟨b, hmark, rfl⟩
      rw [scan?] at h
      split_ifs at h with harray harray' hobject hobject' hcomma hcolon hquote hminus hdigit
      · exact Or.inl (hmark _ (harray ▸ rfl) h)
      · exact Or.inl (hmark _ (harray' ▸ rfl) h)
      · exact Or.inl (hmark _ (hobject ▸ rfl) h)
      · exact Or.inl (hmark _ (hobject' ▸ rfl) h)
      · exact Or.inl (hmark _ (hcomma ▸ rfl) h)
      · exact Or.inl (hmark _ (hcolon ▸ rfl) h)
      · obtain ⟨⟨body, more⟩, hbody, ⟨⟩⟩ := Option.map_eq_some_iff.mp h
        exact Or.inr (Or.inl ⟨body, bytes, rfl, by rw [hquote], hbody⟩)
      · obtain ⟨⟨value, more⟩, hvalue, ⟨⟩⟩ := Option.map_eq_some_iff.mp h
        exact Or.inr (Or.inr ⟨value, rfl, (skips_number? hvalue).cons (by rw [hminus]; decide)⟩)
      · obtain ⟨⟨value, more⟩, hvalue, ⟨⟩⟩ := Option.map_eq_some_iff.mp h
        exact Or.inr (Or.inr ⟨value, rfl, skips_number? hvalue⟩)
      · obtain ⟨⟨value, more⟩, hvalue, ⟨⟩⟩ := Option.map_eq_some_iff.mp h
        exact Or.inr (Or.inr ⟨value, rfl, skips_name? hvalue⟩)

/-- A mark is a byte of ASCII. -/
theorem toNat_lt_of_mark? {token : Token} {b : UInt8} (h : token.mark? = some b) :
    b.toNat < 0x80 := by
  cases token <;> simp only [mark?, Option.some.injEq, reduceCtorEq] at h <;> subst h <;> decide

/-- **Tokens of a text.**  In the bytes of a text every token ends with a character, and every text
token is a text. -/
theorem isEncoded_of_scan? {bytes rest : List UInt8} {token : Token}
    (h : scan? bytes = some (token, rest)) (hbytes : IsEncoded bytes) :
    IsEncoded rest ∧ ∀ body, token = .text body → IsEncoded body := by
  rcases scan?_cases h with ⟨b, hmark, rfl⟩ | ⟨body, more, rfl, rfl, hbody⟩ | ⟨value, rfl, hskips⟩
  · have hb := toNat_lt_of_mark? hmark
    refine ⟨((Skips.refl rest).cons hb).isEncoded hbytes, ?_⟩
    rintro body rfl
    simp [mark?] at hmark
  · have hmore : IsEncoded more := ((Skips.refl more).cons (by decide)).isEncoded hbytes
    obtain ⟨htext, hrest⟩ := isEncoded_of_textBody hbody hmore
    refine ⟨hrest, ?_⟩
    rintro _ ⟨⟩
    exact htext
  · exact ⟨hskips.isEncoded hbytes, by simp⟩

/-- Whether a byte is an opening bracket. -/
def isOpening (b : UInt8) : Bool :=
  b = 0x5B || b = 0x7B

/-- Whether a token opens an array or object. -/
def opens : Token → Bool
  | .openArray => true
  | .openObject => true
  | _ => false

/-- An opening bracket is one of those of the document. -/
theorem openings_of_scan? {bytes rest : List UInt8} {token : Token}
    (h : scan? bytes = some (token, rest)) :
    rest.countP isOpening + (if token.opens then 1 else 0) ≤ bytes.countP isOpening := by
  rcases scan?_cases h with ⟨b, hmark, rfl⟩ | ⟨body, more, rfl, rfl, hbody⟩ | ⟨value, rfl, hskips⟩
  · rw [List.countP_cons]
    have hopens : token.opens = isOpening b := by
      cases token <;> simp only [mark?, Option.some.injEq, reduceCtorEq] at hmark <;>
        subst hmark <;> rfl
    rw [hopens]
  · have hsuffix := (suffix_of_textBody hbody).trans (List.suffix_cons 0x22 more)
    simpa [opens] using hsuffix.sublist.countP_le
  · simpa [opens] using hskips.suffix.sublist.countP_le

end Token

end Catalogue.Json
