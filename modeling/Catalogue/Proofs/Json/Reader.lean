import Mathlib
import Catalogue.Json.Reader
import Catalogue.Proofs.Json.Token

/-!
# Documents that cannot be read

Reading goes token by token, and it fails at the first token that does not fit.  A document comes to
a fault when its tokens are read without one up to there (`Reader.Meets`).  Besides syntax errors
there are two faults: a text that is no UTF-8 where a text may stand (`read_eq_undecodable_iff`),
and a bracket too many where a value may stand (`read_eq_tooDeep_iff`).  The first one never occurs
in the bytes of a text (`not_holdsBadText`), the second one only in documents with more opening
brackets than may be open at once (`not_nestsTooDeep`).
-/

namespace Catalogue.Json

open Text.Utf8 (IsEncoded)

namespace Reader

/-- A value may come next. -/
def TakesValue (reader : Reader) : Prop :=
  reader.expect = .value ∨ reader.expect = .firstItem

/-- A text may come next, as a value or as a name. -/
def TakesText (reader : Reader) : Prop :=
  reader.TakesValue ∨
    ∃ fields, reader.expect = .firstName fields ∨ reader.expect = .name fields

variable {maxDepth : Nat} {reader next : Reader} {token : Token}

/-- Where a value may stand, every token but a closing bracket is taken for one. -/
theorem step_eq_beginValue (h : reader.TakesValue) (htoken : token ≠ .closeArray) :
    reader.step maxDepth token = beginValue maxDepth reader.enclosing token := by
  unfold step
  rcases h with hexpect | hexpect
  · simp only [hexpect]
  · simp only [hexpect]
    split <;> simp_all

/-- Where a text may stand, it is decoded. -/
theorem step_text (h : reader.TakesText) (body : List UInt8) :
    ∃ after : String → Reader, (∀ s, (after s).enclosing = reader.enclosing) ∧
      reader.step maxDepth (.text body) = (textOf body).map after := by
  rcases h with hvalue | ⟨fields, hname⟩
  · refine ⟨fun s => ⟨reader.enclosing, .separator (.str s)⟩, fun _ => rfl, ?_⟩
    rw [step_eq_beginValue hvalue (by simp), beginValue]
    cases textOf body <;> rfl
  · refine ⟨fun s => ⟨reader.enclosing, .colon fields s⟩, fun _ => rfl, ?_⟩
    unfold step
    rcases hname with hexpect | hexpect <;>
      simp only [hexpect] <;> cases textOf body <;> rfl

/-- Where a value may stand, an opening bracket opens a container. -/
theorem step_opens (h : reader.TakesValue) (hopens : token.opens = true) :
    ∃ container expect,
      reader.step maxDepth token = enter maxDepth (container :: reader.enclosing) expect := by
  cases token with
  | openArray => exact ⟨_, _, step_eq_beginValue h (by simp)⟩
  | openObject => exact ⟨_, _, step_eq_beginValue h (by simp)⟩
  | _ => simp [Token.opens] at hopens

/-- Every other step opens nothing, and its token fits or does not. -/
theorem step_other (htext : ∀ body, token = .text body → ¬ reader.TakesText)
    (hopens : token.opens = true → ¬ reader.TakesValue) :
    (∃ next, reader.step maxDepth token = .ok next ∧
      next.enclosing.length ≤ reader.enclosing.length) ∨
      reader.step maxDepth token = .error .malformed := by
  have hbegin : reader.TakesValue →
      (∃ next, beginValue maxDepth reader.enclosing token = .ok next ∧
        next.enclosing.length ≤ reader.enclosing.length) ∨
        beginValue maxDepth reader.enclosing token = .error .malformed := by
    intro htakes
    cases token with
    | literal v => exact .inl ⟨_, rfl, Nat.le_refl _⟩
    | text body => exact absurd (.inl htakes) (htext body rfl)
    | openArray => exact absurd htakes (hopens rfl)
    | openObject => exact absurd htakes (hopens rfl)
    | _ => exact .inr rfl
  -- A container that is closed, or goes on with its next item, is dropped or replaced.
  have hshorter : ∀ {r : Reader} {innermost : Open} {outer : List Open},
      reader.enclosing = innermost :: outer → r.enclosing.length ≤ outer.length + 1 →
      ∃ next : Reader, (.ok r : Except ReadError Reader) = .ok next ∧
        next.enclosing.length ≤ reader.enclosing.length := by
    intro r innermost outer henclosing hlength
    exact ⟨r, rfl, by rw [henclosing]; exact hlength⟩
  unfold step
  split
  · next henclosing => exact .inl (hshorter henclosing (Nat.le_succ _))
  · next hexpect _ => exact hbegin (.inr hexpect)
  · next hexpect => exact hbegin (.inl hexpect)
  · next henclosing => exact .inl (hshorter henclosing (Nat.le_succ _))
  · next hexpect => exact absurd (.inr ⟨_, .inl hexpect⟩) (htext _ rfl)
  · next hexpect => exact absurd (.inr ⟨_, .inr hexpect⟩) (htext _ rfl)
  · next henclosing => exact .inl (hshorter henclosing (Nat.le_refl _))
  · next henclosing => exact .inl (hshorter henclosing (Nat.le_refl _))
  · next henclosing => exact .inl (hshorter henclosing (Nat.le_succ _))
  · next henclosing => exact .inl (hshorter henclosing (Nat.le_refl _))
  · next henclosing => exact .inl (hshorter henclosing (Nat.le_succ _))
  · exact .inr rfl

/-- What a step does to the containers, and the faults that it can meet. -/
theorem step_cases (maxDepth : Nat) (reader : Reader) (token : Token) :
    (∃ next, reader.step maxDepth token = .ok next ∧ next.enclosing.length ≤
      reader.enclosing.length + (if token.opens then 1 else 0)) ∨
    reader.step maxDepth token = .error .malformed ∨
    (∃ body fault, reader.TakesText ∧ token = .text body ∧
      Text.Utf8.decode body = .error fault ∧
      reader.step maxDepth token = .error (.undecodable fault)) ∨
    reader.TakesValue ∧ token.opens = true ∧ maxDepth ≤ reader.enclosing.length ∧
      reader.step maxDepth token = .error .tooDeep := by
  by_cases htext : ∃ body, token = .text body ∧ reader.TakesText
  · obtain ⟨body, rfl, htakes⟩ := htext
    obtain ⟨after, hafter, hstep⟩ := step_text htakes body
    rw [hstep]
    unfold textOf
    split
    · exact .inl ⟨_, rfl, by rw [hafter]; exact Nat.le_add_right _ _⟩
    · next fault hfault => exact .inr (.inr (.inl ⟨body, fault, htakes, rfl, hfault, rfl⟩))
  by_cases hopens : token.opens = true ∧ reader.TakesValue
  · obtain ⟨hopening, htakes⟩ := hopens
    obtain ⟨container, expect, hstep⟩ := step_opens htakes hopening
    rw [hstep, enter, List.length_cons]
    split
    · next hdeep => exact .inr (.inr (.inr ⟨htakes, hopening, Nat.le_of_lt_succ hdeep, rfl⟩))
    · exact .inl ⟨_, rfl, Nat.le_refl _⟩
  · rcases step_other (fun body hbody htakes => htext ⟨body, hbody, htakes⟩)
      (fun hopening htakes => hopens ⟨hopening, htakes⟩) with ⟨next, hstep, hlength⟩ | hstep
    · exact .inl ⟨next, hstep, Nat.le_add_right_of_le hlength⟩
    · exact .inr (.inl hstep)

/-- A text that is no UTF-8 is met only where a text may stand. -/
theorem step_eq_undecodable_iff {fault : Text.Utf8Error} :
    reader.step maxDepth token = .error (.undecodable fault) ↔
      reader.TakesText ∧ ∃ body, token = .text body ∧ Text.Utf8.decode body = .error fault := by
  constructor
  · intro h
    rcases step_cases maxDepth reader token with ⟨next, hstep, -⟩ | hstep |
      ⟨body, fault', htakes, htoken, hfault, hstep⟩ | ⟨-, -, -, hstep⟩
    · rw [hstep] at h
      cases h
    · rw [hstep] at h
      cases h
    · rw [hstep] at h
      cases h
      exact ⟨htakes, body, htoken, hfault⟩
    · rw [hstep] at h
      cases h
  · rintro ⟨htakes, body, rfl, hfault⟩
    obtain ⟨after, -, hstep⟩ := step_text htakes body
    rw [hstep, textOf, hfault]
    rfl

/-- A bracket that opens one array or object too many is met only where a value may stand. -/
theorem step_eq_tooDeep_iff :
    reader.step maxDepth token = .error .tooDeep ↔
      reader.TakesValue ∧ token.opens = true ∧ maxDepth ≤ reader.enclosing.length := by
  constructor
  · intro h
    rcases step_cases maxDepth reader token with ⟨next, hstep, -⟩ | hstep | ⟨_, _, -, -, -, hstep⟩ |
      ⟨htakes, hopens, hdepth, -⟩
    · rw [hstep] at h
      cases h
    · rw [hstep] at h
      cases h
    · rw [hstep] at h
      cases h
    · exact ⟨htakes, hopens, hdepth⟩
  · rintro ⟨htakes, hopens, hdepth⟩
    obtain ⟨container, expect, hstep⟩ := step_opens htakes hopens
    rw [hstep, enter, List.length_cons, if_pos (Nat.lt_succ_of_le hdepth)]

/-- Only an opening bracket adds to the containers. -/
theorem length_enclosing_of_step (h : reader.step maxDepth token = .ok next) :
    next.enclosing.length ≤ reader.enclosing.length + (if token.opens then 1 else 0) := by
  rcases step_cases maxDepth reader token with
    ⟨other, hstep, hlength⟩ | hstep | ⟨_, _, -, -, -, hstep⟩ | ⟨-, -, -, hstep⟩
  · rw [hstep] at h
    cases h
    exact hlength
  all_goals
    rw [hstep] at h
    cases h

/-- The next token of a document, after blanks, and what follows it. -/
def nextToken? (bytes : List UInt8) : Option (Token × List UInt8) :=
  Token.scan? (bytes.dropWhile Token.isBlankByte)

/-- A document brings a reader to a place inside it by tokens that are read without a fault. -/
inductive ComesTo (maxDepth : Nat) (bytes : List UInt8) : Reader → List UInt8 → Prop
  /-- Nothing is read yet. -/
  | start : ComesTo maxDepth bytes .start bytes
  /-- One token further. -/
  | step {reader next : Reader} {middle rest : List UInt8} {token : Token}
      (before : ComesTo maxDepth bytes reader middle)
      (scanned : nextToken? middle = some (token, rest))
      (fits : reader.step maxDepth token = .ok next) : ComesTo maxDepth bytes next rest

/-- A document is read without a fault up to a token. -/
def Meets (maxDepth : Nat) (bytes : List UInt8) (reader : Reader) (token : Token) : Prop :=
  ∃ middle rest, ComesTo maxDepth bytes reader middle ∧ nextToken? middle = some (token, rest)

theorem scan?_eq_map_next? (bytes : List UInt8) :
    Token.scan? bytes = (Token.next? bytes).map fun found => (found.1, found.2.val) := by
  unfold Token.next?
  split
  · next hnone => rw [hnone, Option.map_none]
  · next hsome => exact hsome

/-- Reading takes one token after another. -/
theorem run_cases (maxDepth : Nat) (reader : Reader) (bytes : List UInt8) :
    (nextToken? bytes = none ∧
      (reader.run maxDepth bytes = .error .malformed ∨ ∃ v, reader.run maxDepth bytes = .ok v)) ∨
    ∃ token rest, nextToken? bytes = some (token, rest) ∧ rest.length < bytes.length ∧
      reader.run maxDepth bytes =
        match reader.step maxDepth token with
        | .error e => .error e
        | .ok next => next.run maxDepth rest := by
  have hblanks := (List.dropWhile_suffix (l := bytes) Token.isBlankByte).length_le
  rw [run, nextToken?]
  split
  · next hnil =>
      refine .inl ⟨by rw [hnil, Token.scan?], ?_⟩
      split
      · exact .inr ⟨_, rfl⟩
      · exact .inl rfl
  · next b more hcons =>
      rw [hcons] at hblanks ⊢
      split
      · next hnone =>
          exact .inl ⟨by rw [scan?_eq_map_next?, hnone, Option.map_none], .inl rfl⟩
      · next token rest hsome =>
          have hshorter := rest.property
          refine .inr ⟨token, rest.val, ?_, by omega, rfl⟩
          rw [scan?_eq_map_next?, hsome, Option.map_some]

theorem run_of_nextToken? {bytes rest : List UInt8} (h : nextToken? bytes = some (token, rest)) :
    reader.run maxDepth bytes =
      match reader.step maxDepth token with
      | .error e => .error e
      | .ok next => next.run maxDepth rest := by
  rcases run_cases maxDepth reader bytes with ⟨hnone, -⟩ | ⟨other, more, hnext, -, hrun⟩
  · rw [hnone] at h
    cases h
  · rw [hnext] at h
    cases h
    exact hrun

/-- What is still to be read decides from where a document has come to. -/
theorem ComesTo.read_eq {bytes rest : List UInt8} (h : ComesTo maxDepth bytes reader rest) :
    read maxDepth bytes = reader.run maxDepth rest := by
  induction h with
  | start => rfl
  | step before scanned fits ih => rw [ih, run_of_nextToken? scanned, fits]

/-- Reading on from a place fails at a token that is met, unless it is a syntax error. -/
theorem ComesTo.exists_meets {bytes rest : List UInt8} {e : ReadError} (he : e ≠ .malformed)
    (h : ComesTo maxDepth bytes reader rest) (herror : reader.run maxDepth rest = .error e) :
    ∃ reader token, Meets maxDepth bytes reader token ∧ reader.step maxDepth token = .error e := by
  induction hlength : rest.length using Nat.strong_induction_on generalizing reader rest with
  | _ length ih =>
      rcases run_cases maxDepth reader rest with ⟨-, hrun | ⟨v, hrun⟩⟩ |
        ⟨token, more, hnext, hshorter, hrun⟩
      · rw [hrun] at herror
        exact absurd (Except.error.inj herror).symm he
      · rw [hrun] at herror
        cases herror
      · rw [hrun] at herror
        cases hstep : reader.step maxDepth token with
        | error fault =>
            rw [hstep] at herror
            cases herror
            exact ⟨reader, token, ⟨rest, more, h, hnext⟩, hstep⟩
        | ok next =>
            rw [hstep] at herror
            exact ih more.length (hlength ▸ hshorter) (h.step hnext hstep) herror rfl

/-- A fault that is no syntax error is that of a token that is met. -/
theorem read_eq_error_iff {bytes : List UInt8} {e : ReadError} (he : e ≠ .malformed) :
    read maxDepth bytes = .error e ↔
      ∃ reader token, Meets maxDepth bytes reader token ∧
        reader.step maxDepth token = .error e := by
  constructor
  · exact ComesTo.start.exists_meets he
  · rintro ⟨reader, token, ⟨middle, rest, hcomes, hnext⟩, hstep⟩
    rw [hcomes.read_eq, run_of_nextToken? hnext, hstep]

/-- The containers that are open, and the opening brackets to come, are no more than the opening
brackets of the document. -/
theorem ComesTo.depth_le {bytes rest : List UInt8} (h : ComesTo maxDepth bytes reader rest) :
    reader.enclosing.length + rest.countP Token.isOpening ≤ bytes.countP Token.isOpening := by
  induction h with
  | start => exact Nat.le_of_eq (Nat.zero_add _)
  | @step reader next middle rest token before scanned fits ih =>
      have hlength := length_enclosing_of_step fits
      have htoken := Token.openings_of_scan? scanned
      have hblanks := (List.dropWhile_suffix (l := middle) Token.isBlankByte).sublist.countP_le
        (p := Token.isOpening)
      omega

/-- In the bytes of a text a document comes to the beginnings of characters. -/
theorem ComesTo.isEncoded {bytes rest : List UInt8} (h : ComesTo maxDepth bytes reader rest)
    (hbytes : IsEncoded bytes) : IsEncoded rest := by
  induction h with
  | start => exact hbytes
  | step _ scanned _ ih =>
      have hblanks := (skips_dropWhile (fun _ => Token.isBlankByte_lt) _).isEncoded ih
      exact (Token.isEncoded_of_scan? scanned hblanks).1

end Reader

/-- A document holds a text that is no UTF-8 where a text may stand, and no fault before it. -/
def HoldsBadText (maxDepth : Nat) (bytes : List UInt8) (fault : Text.Utf8Error) : Prop :=
  ∃ reader body, Reader.Meets maxDepth bytes reader (.text body) ∧ reader.TakesText ∧
    Text.Utf8.decode body = .error fault

/-- A document opens an array or object where a value may stand, inside as many as may be open at
once, and has no fault before. -/
def NestsTooDeep (maxDepth : Nat) (bytes : List UInt8) : Prop :=
  ∃ reader token, Reader.Meets maxDepth bytes reader token ∧ reader.TakesValue ∧
    token.opens = true ∧ maxDepth ≤ reader.enclosing.length

variable {maxDepth : Nat}

/-- **Texts that are no UTF-8.**  A document is refused for such a text if and only if it holds
one. -/
theorem read_eq_undecodable_iff {bytes : List UInt8} {fault : Text.Utf8Error} :
    read maxDepth bytes = .error (.undecodable fault) ↔ HoldsBadText maxDepth bytes fault := by
  rw [Reader.read_eq_error_iff (by simp)]
  constructor
  · rintro ⟨reader, token, hmeets, hstep⟩
    obtain ⟨htakes, body, rfl, hfault⟩ := Reader.step_eq_undecodable_iff.mp hstep
    exact ⟨reader, body, hmeets, htakes, hfault⟩
  · rintro ⟨reader, body, hmeets, htakes, hfault⟩
    exact ⟨reader, .text body, hmeets,
      Reader.step_eq_undecodable_iff.mpr ⟨htakes, body, rfl, hfault⟩⟩

/-- **Nesting.**  A document is refused for its depth exactly when it nests too deeply. -/
theorem read_eq_tooDeep_iff {bytes : List UInt8} :
    read maxDepth bytes = .error .tooDeep ↔ NestsTooDeep maxDepth bytes := by
  rw [Reader.read_eq_error_iff (by simp)]
  exact exists_congr fun reader => exists_congr fun token =>
    and_congr_right fun _ => Reader.step_eq_tooDeep_iff

/-- In the bytes of a text every text is UTF-8. -/
theorem not_holdsBadText {bytes : List UInt8} (h : IsEncoded bytes) (fault : Text.Utf8Error) :
    ¬ HoldsBadText maxDepth bytes fault := by
  rintro ⟨reader, body, ⟨middle, rest, hcomes, hnext⟩, -, hfault⟩
  have hblanks := (skips_dropWhile (fun _ => Token.isBlankByte_lt) middle).isEncoded
    (hcomes.isEncoded h)
  obtain ⟨cs, rfl⟩ := (Token.isEncoded_of_scan? hnext hblanks).2 body rfl
  rw [Text.Utf8.decode_encode] at hfault
  cases hfault

/-- With no more opening brackets than arrays and objects that may be open, none is too many. -/
theorem not_nestsTooDeep {bytes : List UInt8}
    (h : bytes.countP Token.isOpening ≤ maxDepth) : ¬ NestsTooDeep maxDepth bytes := by
  rintro ⟨reader, token, ⟨middle, rest, hcomes, hnext⟩, -, hopens, hdepth⟩
  have hcount := hcomes.depth_le
  have htoken := Token.openings_of_scan? hnext
  have hblanks := (List.dropWhile_suffix (l := middle) Token.isBlankByte).sublist.countP_le
    (p := Token.isOpening)
  rw [if_pos hopens] at htoken
  omega

/-- Opening brackets only are read one inside the other, as many as may be open. -/
theorem Reader.comesTo_replicate (n more : Nat) (h : n < maxDepth) :
    ComesTo maxDepth (List.replicate (n + 1 + more) 0x5B)
      ⟨List.replicate (n + 1) (.array []), .firstItem⟩ (List.replicate more 0x5B) := by
  have hnext : ∀ m, nextToken? (List.replicate (m + 1) 0x5B) =
      some (.openArray, List.replicate m 0x5B) := fun m => rfl
  induction n generalizing more with
  | zero =>
      have hfits : ¬ maxDepth < [Open.array []].length := Nat.not_lt.mpr h
      rw [Nat.zero_add, Nat.add_comm]
      refine .step .start (hnext more) ?_
      rw [step_eq_beginValue (.inl rfl) (by simp), beginValue]
      exact if_neg hfits
  | succ n ih =>
      have hbefore := ih (more + 1) (by omega)
      rw [show n + 1 + (more + 1) = n + 1 + 1 + more by omega] at hbefore
      refine hbefore.step (hnext more) ?_
      have hfits : ¬ maxDepth < (Open.array [] :: List.replicate (n + 1) (.array [])).length := by
        rw [List.length_cons, List.length_replicate]
        omega
      rw [step_eq_beginValue (.inr rfl) (by simp), beginValue, enter, if_neg hfits]
      rfl

/-- One opening bracket more than may be open is too many. -/
theorem nestsTooDeep_replicate {n : Nat} (h : maxDepth < n) :
    NestsTooDeep maxDepth (List.replicate n 0x5B) := by
  obtain ⟨more, rfl⟩ := Nat.exists_eq_add_of_lt h
  have hnext : Reader.nextToken? (List.replicate (more + 1) 0x5B) =
      some (.openArray, List.replicate more 0x5B) := rfl
  cases maxDepth with
  | zero =>
      rw [Nat.zero_add]
      exact ⟨_, _, ⟨_, _, .start, hnext⟩, .inl rfl, rfl, Nat.zero_le _⟩
  | succ depth =>
      have hcomes := Reader.comesTo_replicate depth (more + 1) (Nat.lt_succ_self depth)
      exact ⟨_, _, ⟨_, _, hcomes, hnext⟩, .inr rfl, rfl,
        by rw [List.length_replicate]⟩

end Catalogue.Json
