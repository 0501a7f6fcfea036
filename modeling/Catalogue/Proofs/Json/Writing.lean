import Catalogue.Json.Writer
import Catalogue.Proofs.Json.Reader
import Catalogue.Proofs.Outcome

/-!
# Documents that can be written again

Integers of more than 4300 digits are neither read nor written.  An integer token has no more
digits than that, and a reader puts its values together from tokens, so every value that is read
can be written (`read_isWritable`).
-/

namespace Catalogue

/-- Fields whose values can all be written. -/
def Fields.AreWritable (fields : Fields) : Prop :=
  ∀ field ∈ fields, field.2.isWritable = true

/-- A field that is added or replaced by one that can be written. -/
theorem Fields.AreWritable.insert {fields : Fields} (h : fields.AreWritable) (name : String)
    {v : Json} (hv : v.isWritable = true) : (fields.insert name v).AreWritable := by
  induction fields with
  | nil => simpa [Fields.insert, AreWritable] using hv
  | cons field fields ih =>
      obtain ⟨hfield, hfields⟩ := List.forall_mem_cons.mp h
      rw [Fields.insert]
      split
      · exact List.forall_mem_cons.mpr ⟨hv, hfields⟩
      · exact List.forall_mem_cons.mpr ⟨hfield, ih hfields⟩

namespace Json

/-- An array can be written if its items can. -/
@[simp] theorem isWritable_arr (items : List Json) :
    (Json.arr items).isWritable = true ↔ ∀ item ∈ items, item.isWritable = true := by
  rw [isWritable]
  induction items with
  | nil => simp [areWritable]
  | cons item items ih => simp [areWritable, ih]

/-- An object can be written if the values of its fields can. -/
@[simp] theorem isWritable_obj (fields : Fields) :
    (Json.obj fields).isWritable = true ↔ fields.AreWritable := by
  rw [isWritable]
  induction fields with
  | nil => simp [haveWritable, Fields.AreWritable]
  | cons field fields ih => simp_all [haveWritable, Fields.AreWritable]

namespace Token

/-- Digits write a number below the power of ten that they reach up to. -/
theorem digitsValue_lt_pow_length {bytes : List UInt8} (h : ∀ b ∈ bytes, isDigitByte b = true) :
    digitsValue bytes < Nat.pow 10 bytes.length := by
  induction bytes using List.reverseRecOn with
  | nil => simp [digitsValue]
  | append_singleton bytes b ih =>
      have hbytes := ih fun b hb => h b (List.mem_append_left _ hb)
      have hb := h b (by simp)
      have hdigit : b.toNat - 0x30 < 10 := by
        simp only [isDigitByte, Bool.and_eq_true, decide_eq_true_eq, UInt8.le_iff_toNat_le] at hb
        have hnine : b.toNat ≤ 0x39 := hb.2
        omega
      simp only [digitsValue, Nat.pow_eq] at hbytes ⊢
      rw [List.foldl_append, List.length_append, pow_add]
      simp only [List.foldl_cons, List.foldl_nil, List.length_singleton, pow_one]
      omega

/-- A number of `count` digits at most is below the power of ten with as many zeros. -/
theorem digitsValue_lt {bytes : List UInt8} (h : ∀ b ∈ bytes, isDigitByte b = true) {count : Nat}
    (hcount : bytes.length ≤ count) : digitsValue bytes < Nat.pow 10 count :=
  Nat.lt_of_lt_of_le (digitsValue_lt_pow_length h) (Nat.pow_le_pow_right (by decide) hcount)

/-- The value of a number can be written. -/
theorem isWritable_of_numberValue? {negative : Bool} {whole fraction : List UInt8}
    {exponent : Option Int} {v : Json} (hdigits : ∀ b ∈ whole, isDigitByte b = true)
    (h : numberValue? negative whole fraction exponent = some v) : v.isWritable = true := by
  unfold numberValue? at h
  split at h
  · by_cases hlong : Text.maxDigits < whole.length + (if negative then 1 else 0)
    · rw [if_pos hlong] at h
      cases h
    · rw [if_neg hlong] at h
      obtain rfl := Option.some.inj h
      have hsign : (if negative then -(digitsValue whole : Int) else digitsValue whole).natAbs =
          digitsValue whole := by split <;> simp
      rw [isWritable, Text.isWritable, hsign]
      exact decide_eq_true (digitsValue_lt hdigits (by omega))
  · obtain ⟨_, -, rfl⟩ := Option.map_eq_some_iff.mp h
    rfl

/-- A number that is read can be written. -/
theorem isWritable_of_number? {negative : Bool} {bytes rest : List UInt8} {v : Json}
    (h : number? negative bytes = some (v, rest)) : v.isWritable = true := by
  unfold number? at h
  split at h
  · cases h
  · cases h
  · simp only [Option.bind_eq_bind, Option.bind_eq_some_iff] at h
    obtain ⟨_, -, _, -, value, hvalue, hsame⟩ := h
    obtain ⟨rfl, -⟩ := Prod.mk.inj (Option.some.inj hsame)
    exact isWritable_of_numberValue? (fun _ => List.mem_takeWhile_imp) hvalue

theorem isWritable_of_name? {bytes rest : List UInt8} {v : Json}
    (h : name? bytes = some (v, rest)) : v.isWritable = true := by
  obtain ⟨⟨spelling, value⟩, hmem, hfound⟩ := List.exists_of_findSome?_eq_some h
  have hnames : ∀ name ∈ names, name.2.isWritable = true := by decide
  simp only at hfound
  split at hfound
  · obtain ⟨rfl, -⟩ := Prod.mk.inj (Option.some.inj hfound)
    exact hnames _ hmem
  · cases hfound

/-- A token is no value that cannot be written. -/
def IsWritable (token : Token) : Prop :=
  ∀ v, token = .literal v → v.isWritable = true

/-- **Tokens.**  None is a value that cannot be written. -/
theorem isWritable_of_scan? {bytes rest : List UInt8} {token : Token}
    (h : scan? bytes = some (token, rest)) : token.IsWritable := by
  intro v hv
  subst hv
  cases bytes with
  | nil => cases h
  | cons b bytes =>
      rw [scan?] at h
      split_ifs at h
      -- A mark is no value.
      any_goals cases h
      · obtain ⟨_, _, hbody⟩ := Option.map_eq_some_iff.mp h
        cases hbody
      · obtain ⟨_, hvalue, ⟨⟩⟩ := Option.map_eq_some_iff.mp h
        exact isWritable_of_number? hvalue
      · obtain ⟨_, hvalue, ⟨⟩⟩ := Option.map_eq_some_iff.mp h
        exact isWritable_of_number? hvalue
      · obtain ⟨_, hvalue, ⟨⟩⟩ := Option.map_eq_some_iff.mp h
        exact isWritable_of_name? hvalue

end Token

/-- An open container has only values that can be written. -/
def Open.IsWritable : Open → Prop
  | .array items => ∀ item ∈ items, item.isWritable = true
  | .object fields _ => fields.AreWritable

/-- What has been read of a value, or is waiting for a name, can be written. -/
def Expect.IsWritable : Expect → Prop
  | .value => True
  | .firstItem => True
  | .firstName fields => fields.AreWritable
  | .name fields => fields.AreWritable
  | .colon fields _ => fields.AreWritable
  | .separator last => last.isWritable = true

namespace Reader

/-- All that a reader has read can be written. -/
structure IsWritable (reader : Reader) : Prop where
  enclosing : ∀ container ∈ reader.enclosing, container.IsWritable
  expect : reader.expect.IsWritable

variable {maxDepth : Nat} {reader next : Reader} {token : Token}

theorem isWritable_start : start.IsWritable := ⟨by simp [start], trivial⟩

/-- A reader enters a container that can be written. -/
theorem isWritable_of_enter {enclosing : List Open} {container : Open} {expect : Expect}
    (h : ∀ container ∈ enclosing, container.IsWritable) (hcontainer : container.IsWritable)
    (hexpect : expect.IsWritable)
    (henter : enter maxDepth (container :: enclosing) expect = .ok next) : next.IsWritable := by
  unfold enter at henter
  split at henter
  · cases henter
  · cases henter
    exact ⟨List.forall_mem_cons.mpr ⟨hcontainer, h⟩, hexpect⟩

/-- The first token of a value is the value itself, or opens an empty container. -/
theorem isWritable_of_beginValue {enclosing : List Open}
    (h : ∀ container ∈ enclosing, container.IsWritable) (htoken : token.IsWritable)
    (hbegin : beginValue maxDepth enclosing token = .ok next) : next.IsWritable := by
  cases token with
  | literal v =>
      cases hbegin
      exact ⟨h, htoken v rfl⟩
  | text bytes =>
      obtain ⟨s, -, hnext⟩ := bind_eq_ok_iff.mp hbegin
      cases hnext
      exact ⟨h, rfl⟩
  | openArray =>
      have hempty : (Open.array []).IsWritable := List.forall_mem_nil _
      have hfirst : Expect.firstItem.IsWritable := trivial
      exact isWritable_of_enter h hempty hfirst hbegin
  | openObject =>
      have hempty : (Open.object [] "").IsWritable := List.forall_mem_nil _
      have hfirst : (Expect.firstName []).IsWritable := List.forall_mem_nil _
      exact isWritable_of_enter h hempty hfirst hbegin
  | closeArray => cases hbegin
  | closeObject => cases hbegin
  | comma => cases hbegin
  | colon => cases hbegin

/-- **One step.**  What a token adds to what has been read can be written. -/
theorem IsWritable.step (h : reader.IsWritable) (htoken : token.IsWritable)
    (hstep : reader.step maxDepth token = .ok next) : next.IsWritable := by
  obtain ⟨enclosing, expect⟩ := reader
  obtain ⟨henclosing, hexpect⟩ := h
  have houter : ∀ {innermost : Open} {outer : List Open}, enclosing = innermost :: outer →
      innermost.IsWritable ∧ ∀ container ∈ outer, container.IsWritable := by
    intro innermost outer hsplit
    subst hsplit
    exact List.forall_mem_cons.mp henclosing
  unfold Reader.step at hstep
  split at hstep
  -- One case for each token that fits, and the last one for those that do not.
  · next hsplit =>
      cases hstep
      exact ⟨(houter hsplit).2, by simp [Expect.IsWritable]⟩
  · exact isWritable_of_beginValue henclosing htoken hstep
  · exact isWritable_of_beginValue henclosing htoken hstep
  · next hname hsplit =>
      cases hstep
      cases hname
      exact ⟨(houter hsplit).2, (isWritable_obj _).mpr hexpect⟩
  · next hname =>
      obtain ⟨s, -, hnext⟩ := bind_eq_ok_iff.mp hstep
      cases hnext
      cases hname
      exact ⟨henclosing, hexpect⟩
  · next hname =>
      obtain ⟨s, -, hnext⟩ := bind_eq_ok_iff.mp hstep
      cases hnext
      cases hname
      exact ⟨henclosing, hexpect⟩
  · next hcolon hsplit =>
      cases hstep
      cases hcolon
      exact ⟨List.forall_mem_cons.mpr ⟨hexpect, (houter hsplit).2⟩, trivial⟩
  · next hlast hsplit =>
      cases hstep
      cases hlast
      obtain ⟨hitems, hrest⟩ := houter hsplit
      exact ⟨List.forall_mem_cons.mpr ⟨List.forall_mem_cons.mpr ⟨hexpect, hitems⟩, hrest⟩, trivial⟩
  · next last items _ hlast hsplit =>
      cases hstep
      cases hlast
      obtain ⟨hitems, hrest⟩ := houter hsplit
      have hall : ∀ item ∈ last :: items, item.isWritable = true :=
        List.forall_mem_cons.mpr ⟨hexpect, hitems⟩
      exact ⟨hrest, (isWritable_arr _).mpr fun item hitem => hall item (List.mem_reverse.mp hitem)⟩
  · next hlast hsplit =>
      cases hstep
      cases hlast
      exact ⟨hsplit ▸ henclosing, Fields.AreWritable.insert (houter hsplit).1 _ hexpect⟩
  · next hlast hsplit =>
      cases hstep
      cases hlast
      obtain ⟨hfields, hrest⟩ := houter hsplit
      exact ⟨hrest, (isWritable_obj _).mpr (Fields.AreWritable.insert hfields _ hexpect)⟩
  · cases hstep

/-- **A run** ends with a value that can be written. -/
theorem IsWritable.run {bytes : List UInt8} {v : Json} (h : reader.IsWritable)
    (hrun : reader.run maxDepth bytes = .ok v) : v.isWritable = true := by
  fun_induction Reader.run maxDepth reader bytes with
  | case1 _ _ _ value _ hlast =>
      cases hrun
      have hexpect := h.expect
      rwa [hlast] at hexpect
  | case2 => cases hrun
  | case3 => cases hrun
  | case4 => cases hrun
  | case5 reader bytes b more _ token rest hnext next hstep ih =>
      have hscan : Token.scan? (b :: more) = some (token, rest.val) := by
        rw [scan?_eq_map_next?, hnext, Option.map_some]
      exact ih (h.step (Token.isWritable_of_scan? hscan) hstep) hrun

end Reader

/-- **What is read can be written.** -/
theorem read_isWritable {maxDepth : Nat} {bytes : List UInt8} {v : Json}
    (h : read maxDepth bytes = .ok v) : v.isWritable = true :=
  Reader.isWritable_start.run h

end Json

end Catalogue
