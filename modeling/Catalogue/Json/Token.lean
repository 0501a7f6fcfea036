import Catalogue.Json.Basic
import Catalogue.Text.Utf8

/-!
# JSON tokens

The first token of a byte sequence, and what follows it.  Blanks between tokens are the four of the
format and nothing else.  A text token holds its bytes with the escapes resolved; whether these are
UTF-8 is decided where the text is used, so that a text in a wrong place is first of all in a wrong
place.
-/

namespace Catalogue.Json

/-- The smallest parts of a document. -/
inductive Token where
  | openArray
  | closeArray
  | openObject
  | closeObject
  | comma
  | colon
  /-- A value that is no array, object or text. -/
  | literal (value : Json)
  /-- A text, as bytes. -/
  | text (bytes : List UInt8)

namespace Token

/-- The blanks between tokens: space, tab, line feed and carriage return. -/
def isBlankByte (b : UInt8) : Bool :=
  b = 0x20 || b = 0x9 || b = 0xA || b = 0xD

/-- The value of a hexadecimal digit. -/
def hexValue? (b : UInt8) : Option Nat :=
  if 0x30 ≤ b ∧ b ≤ 0x39 then some (b.toNat - 0x30)
  else if 0x41 ≤ b ∧ b ≤ 0x46 then some (b.toNat - 0x41 + 10)
  else if 0x61 ≤ b ∧ b ≤ 0x66 then some (b.toNat - 0x61 + 10)
  else none

/-- The number that four hexadecimal digits write. -/
def hexQuad? (a b c d : UInt8) : Option Nat := do
  return (((← hexValue? a) * 16 + (← hexValue? b)) * 16 + (← hexValue? c)) * 16 + (← hexValue? d)

/-- What a backslash and one more byte stand for. -/
def simpleEscape? (b : UInt8) : Option UInt8 :=
  if b = 0x22 ∨ b = 0x5C ∨ b = 0x2F then some b
  else if b = 0x62 then some 0x08
  else if b = 0x66 then some 0x0C
  else if b = 0x6E then some 0x0A
  else if b = 0x72 then some 0x0D
  else if b = 0x74 then some 0x09
  else none

/-- The character of a numeric escape, given the bytes after its four digits.  A high surrogate has
to be followed by the escape of a low one; the result counts the bytes of that escape. -/
def escapedChar? (n : Nat) (rest : List UInt8) : Option (Char × Nat) :=
  if 0xD800 ≤ n ∧ n < 0xDC00 then
    match rest with
    | 0x5C :: 0x75 :: a :: b :: c :: d :: _ => do
      let low ← hexQuad? a b c d
      if 0xDC00 ≤ low ∧ low < 0xE000 then
        some (Char.ofNat (0x10000 + (n - 0xD800) * 0x400 + (low - 0xDC00)), 6)
      else
        none
    | _ => none
  else if 0xDC00 ≤ n ∧ n < 0xE000 then
    none
  else
    some (Char.ofNat n, 0)

/-- The bytes of a text after its opening quote, up to the closing one, and what follows.  Control
characters may not stand in a text. -/
def textBody (done : List UInt8) : List UInt8 → Option (List UInt8 × List UInt8)
  | [] => none
  | b :: rest =>
    if b = 0x22 then
      some (done.reverse, rest)
    else if b < 0x20 then
      none
    else if b ≠ 0x5C then
      textBody (b :: done) rest
    else
      match rest with
      | 0x75 :: a :: b :: c :: d :: rest =>
        match hexQuad? a b c d >>= fun n => escapedChar? n rest with
        | some (c, used) => textBody ((Text.Utf8.encodeChar c).reverse ++ done) (rest.drop used)
        | none => none
      | e :: rest =>
        match simpleEscape? e with
        | some c => textBody (c :: done) rest
        | none => none
      | [] => none
termination_by bytes => bytes.length
decreasing_by all_goals (simp_all <;> omega)

/-- Whether a byte is an ASCII digit. -/
def isDigitByte (b : UInt8) : Bool :=
  0x30 ≤ b && b ≤ 0x39

/-- The number that ASCII digits write. -/
def digitsValue (bytes : List UInt8) : Nat :=
  bytes.foldl (fun n b => 10 * n + (b.toNat - 0x30)) 0

/-- The fraction of a number, if one begins here: the digits after the point, and what follows.  A
point needs a digit. -/
def fraction? : List UInt8 → Option (List UInt8 × List UInt8)
  | 0x2E :: rest =>
    match rest.takeWhile isDigitByte with
    | [] => none
    | digits => some (digits, rest.dropWhile isDigitByte)
  | rest => some ([], rest)

/-- Splits one leading sign from the digits of an exponent; the flag says whether it is a minus. -/
def splitSign : List UInt8 → Bool × List UInt8
  | 0x2D :: digits => (true, digits)
  | 0x2B :: digits => (false, digits)
  | digits => (false, digits)

/-- The exponent of a number, if one begins here, and what follows.  It needs a digit. -/
def exponent? : List UInt8 → Option (Option Int × List UInt8)
  | [] => some (none, [])
  | e :: rest =>
    if e = 0x65 ∨ e = 0x45 then
      let (negative, rest) := splitSign rest
      match rest.takeWhile isDigitByte with
      | [] => none
      | digits =>
        let n : Int := digitsValue digits
        some (some (if negative then -n else n), rest.dropWhile isDigitByte)
    else
      some (none, e :: rest)

/-- The value of a number: an integer when it has neither fraction nor exponent.  Integers of more
than 4300 characters, sign included, and numbers beyond the range of doubles are refused. -/
def numberValue? (negative : Bool) (whole fraction : List UInt8) (exponent : Option Int) :
    Option Json :=
  match fraction, exponent with
  | [], none =>
    if Text.maxDigits < whole.length + (if negative then 1 else 0) then
      none
    else
      let n : Int := digitsValue whole
      some (.int (if negative then -n else n))
  | _, _ =>
    let x := Binary64.ofDecimal negative (digitsValue (whole ++ fraction))
      (exponent.getD 0 - fraction.length)
    x.quanta?.map fun _ => .float x

/-- A number after its sign.  Digits before the point have no leading zero. -/
def number? (negative : Bool) (bytes : List UInt8) : Option (Json × List UInt8) :=
  match bytes.takeWhile isDigitByte with
  | [] => none
  | 0x30 :: _ :: _ => none
  | whole => do
    let (fraction, rest) ← fraction? (bytes.dropWhile isDigitByte)
    let (exponent, rest) ← exponent? rest
    let value ← numberValue? negative whole fraction exponent
    return (value, rest)

/-- The named literals of the format: `null`, `true` and `false`. -/
def names : List (List UInt8 × Json) :=
  [([0x6E, 0x75, 0x6C, 0x6C], .null), ([0x74, 0x72, 0x75, 0x65], .bool true),
    ([0x66, 0x61, 0x6C, 0x73, 0x65], .bool false)]

/-- A named literal and what follows it. -/
def name? (bytes : List UInt8) : Option (Json × List UInt8) :=
  names.findSome? fun (spelling, value) =>
    if spelling.isPrefixOf bytes then some (value, bytes.drop spelling.length) else none

/-- The first token of a byte sequence that begins with no blank, and what follows it. -/
def scan? : List UInt8 → Option (Token × List UInt8)
  | [] => none
  | b :: rest =>
    if b = 0x5B then some (.openArray, rest)
    else if b = 0x5D then some (.closeArray, rest)
    else if b = 0x7B then some (.openObject, rest)
    else if b = 0x7D then some (.closeObject, rest)
    else if b = 0x2C then some (.comma, rest)
    else if b = 0x3A then some (.colon, rest)
    else if b = 0x22 then (textBody [] rest).map fun (bytes, rest) => (.text bytes, rest)
    else if b = 0x2D then (number? true rest).map fun (value, rest) => (.literal value, rest)
    else if isDigitByte b then
      (number? false (b :: rest)).map fun (value, rest) => (.literal value, rest)
    else (name? (b :: rest)).map fun (value, rest) => (.literal value, rest)

/-- A text takes at least its closing quote. -/
theorem length_textBody {done bytes body rest : List UInt8}
    (h : textBody done bytes = some (body, rest)) : rest.length < bytes.length := by
  fun_induction textBody done bytes with
  | case1 => simp at h
  | case2 => simp_all
  | case3 => simp at h
  | case4 _ _ _ _ _ _ ih => have := ih h; simp_all; omega
  | case5 _ _ _ _ _ _ _ _ _ _ _ _ _ ih =>
    have := ih h
    simp_all
    omega
  | case6 => simp at h
  | case7 _ _ _ _ _ _ _ _ _ _ ih => have := ih h; simp_all; omega
  | case8 => simp at h
  | case9 => simp at h

/-- Skipping bytes leaves no more than there were. -/
theorem length_dropWhile_le (p : UInt8 → Bool) (bytes : List UInt8) :
    (bytes.dropWhile p).length ≤ bytes.length :=
  (List.dropWhile_suffix p).length_le

/-- A fraction leaves no more than there was, as it may be absent. -/
theorem length_fraction? {bytes digits rest : List UInt8}
    (h : fraction? bytes = some (digits, rest)) : rest.length ≤ bytes.length := by
  rw [fraction?.eq_def] at h
  split at h
  · split at h
    · simp at h
    · next after _ _ =>
      simp only [Option.some.injEq, Prod.mk.injEq] at h
      have := length_dropWhile_le isDigitByte after
      rw [h.2] at this
      simp only [List.length_cons]
      omega
  · simp_all

/-- A sign leaves no more than there was, as it may be absent. -/
theorem length_splitSign (bytes : List UInt8) : (splitSign bytes).2.length ≤ bytes.length := by
  rw [splitSign.eq_def]
  split <;> simp

/-- An exponent leaves no more than there was, as it may be absent. -/
theorem length_exponent? {bytes rest : List UInt8} {exponent : Option Int}
    (h : exponent? bytes = some (exponent, rest)) : rest.length ≤ bytes.length := by
  cases bytes with
  | nil => simp_all [exponent?]
  | cons e bytes =>
    simp only [exponent?] at h
    split at h
    · split at h
      · simp at h
      · simp only [Option.some.injEq, Prod.mk.injEq] at h
        have first := length_splitSign bytes
        have second := length_dropWhile_le isDigitByte (splitSign bytes).2
        rw [h.2] at second
        simp only [List.length_cons]
        omega
    · simp only [Option.some.injEq, Prod.mk.injEq] at h
      simp [← h.2]

/-- A number takes at least one digit. -/
theorem length_number? {negative : Bool} {bytes rest : List UInt8} {value : Json}
    (h : number? negative bytes = some (value, rest)) : rest.length < bytes.length := by
  rw [number?] at h
  split at h
  · simp at h
  · simp at h
  · next taken _ =>
    simp only [Option.bind_eq_bind, Option.bind_eq_some_iff] at h
    obtain ⟨⟨fraction, middle⟩, fractionFound, ⟨exponent, after⟩, exponentFound, _, _, same⟩ := h
    simp only [Option.pure_def, Option.some.injEq, Prod.mk.injEq] at same
    have first := length_fraction? fractionFound
    have second := length_exponent? exponentFound
    have whole := congrArg List.length
      (List.takeWhile_append_dropWhile (p := isDigitByte) (l := bytes))
    have := List.length_pos_iff.2 taken
    simp only [List.length_append] at whole
    rw [← same.2]
    simp only at second
    omega

/-- A named literal takes at least one byte. -/
theorem length_name? {bytes rest : List UInt8} {value : Json}
    (h : name? bytes = some (value, rest)) : rest.length < bytes.length := by
  obtain ⟨⟨spelling, v⟩, member, found⟩ := List.exists_of_findSome?_eq_some h
  simp only at found
  split at found
  · next isPrefix =>
    have long := (List.isPrefixOf_iff_prefix.1 isPrefix).length_le
    simp only [Option.some.injEq, Prod.mk.injEq] at found
    have : 0 < spelling.length := by
      simp only [names, List.mem_cons, Prod.mk.injEq, List.not_mem_nil, or_false] at member
      rcases member with ⟨rfl, _⟩ | ⟨rfl, _⟩ | ⟨rfl, _⟩ <;> decide
    rw [← found.2, List.length_drop]
    omega
  · simp at found

/-- Every token takes at least one byte. -/
theorem length_scan? {bytes rest : List UInt8} {token : Token}
    (h : scan? bytes = some (token, rest)) : rest.length < bytes.length := by
  cases bytes with
  | nil => simp [scan?] at h
  | cons b bytes =>
    have mark {mark : Token} (same : some (mark, bytes) = some (token, rest)) :
        rest.length < (b :: bytes).length := by
      simp_all
    rw [scan?] at h
    iterate 6
      split at h
      · exact mark h
    split at h
    · obtain ⟨⟨_, _⟩, found, ⟨⟩⟩ := Option.map_eq_some_iff.1 h
      exact Nat.lt_succ_of_lt (length_textBody found)
    split at h
    · obtain ⟨⟨_, _⟩, found, ⟨⟩⟩ := Option.map_eq_some_iff.1 h
      exact Nat.lt_succ_of_lt (length_number? found)
    split at h
    · obtain ⟨⟨_, _⟩, found, ⟨⟩⟩ := Option.map_eq_some_iff.1 h
      exact length_number? found
    · obtain ⟨⟨_, _⟩, found, ⟨⟩⟩ := Option.map_eq_some_iff.1 h
      exact length_name? found

/-- The first token and what follows it, which is shorter. -/
def next? (bytes : List UInt8) :
    Option (Token × { rest : List UInt8 // rest.length < bytes.length }) :=
  match h : scan? bytes with
  | none => none
  | some (token, rest) => some (token, ⟨rest, length_scan? h⟩)

end Token

end Catalogue.Json
