import Catalogue.Json.Token

/-!
# Reading JSON documents

A document is read token by token onto a stack of the arrays and objects that are still open.  What
the reader may meet next is one of six expectations, so commas, colons and closing brackets are
accepted only where the format has them.  Reading fails at the first token that does not fit: with a
syntax error, with bytes of a text that are no UTF-8, or when too many brackets are open at once.
How many that are depends on the stack that is left where reading begins, so it is not part of the
format: every reader is given its number.
-/

namespace Catalogue.Json

/-- What reading depends on besides the document. -/
structure Decoder where
  /-- The number of arrays and objects that may be open at once. -/
  maxDepth : Nat
  /-- What is said about bytes that are no JSON. -/
  complaint : List UInt8 → String

/-- Why a document cannot be read. -/
inductive ReadError where
  /-- The document is no JSON. -/
  | malformed
  /-- A text of the document is no UTF-8. -/
  | undecodable (e : Text.Utf8Error)
  /-- Too many arrays and objects are nested. -/
  | tooDeep
  deriving DecidableEq, Repr

/-- An array or object whose closing bracket is still to come. -/
inductive Open where
  /-- The items read so far, in reverse. -/
  | array (items : List Json)
  /-- The fields read so far, and the name of the one that is being read. -/
  | object (fields : Fields) (name : String)

/-- What may come next. -/
inductive Expect where
  /-- A value. -/
  | value
  /-- A value or the end of the array just opened. -/
  | firstItem
  /-- A name or the end of the object just opened. -/
  | firstName (fields : Fields)
  /-- A name. -/
  | name (fields : Fields)
  /-- The colon after a name. -/
  | colon (fields : Fields) (name : String)
  /-- A comma or closing bracket after a value; with nothing open, the end of the document. -/
  | separator (last : Json)

/-- The reader between two tokens: the containers around it, innermost first, and what may come. -/
structure Reader where
  enclosing : List Open
  expect : Expect

namespace Reader

/-- Before the first token. -/
def start : Reader := ⟨[], .value⟩

/-- The characters of a text token. -/
def textOf (bytes : List UInt8) : Except ReadError String :=
  match Text.Utf8.decode bytes with
  | .ok cs => .ok (String.ofList cs)
  | .error e => .error (.undecodable e)

/-- Opens an array or object, unless it is one too many. -/
def enter (maxDepth : Nat) (inner : List Open) (expect : Expect) : Except ReadError Reader :=
  if maxDepth < inner.length then .error .tooDeep else .ok ⟨inner, expect⟩

/-- Reads the first token of a value. -/
def beginValue (maxDepth : Nat) (enclosing : List Open) : Token → Except ReadError Reader
  | .literal v => .ok ⟨enclosing, .separator v⟩
  | .text bytes => do
    let s ← textOf bytes
    return ⟨enclosing, .separator (.str s)⟩
  | .openArray => enter maxDepth (.array [] :: enclosing) .firstItem
  | .openObject => enter maxDepth (.object [] "" :: enclosing) (.firstName [])
  | _ => .error .malformed

/-- One token further. -/
def step (maxDepth : Nat) (reader : Reader) (token : Token) : Except ReadError Reader :=
  match reader.expect, reader.enclosing, token with
  | .firstItem, _ :: outer, .closeArray => .ok ⟨outer, .separator (.arr [])⟩
  | .firstItem, enclosing, _ => beginValue maxDepth enclosing token
  | .value, enclosing, _ => beginValue maxDepth enclosing token
  | .firstName fields, _ :: outer, .closeObject => .ok ⟨outer, .separator (.obj fields)⟩
  | .firstName fields, enclosing, .text bytes => do
    let s ← textOf bytes
    return ⟨enclosing, .colon fields s⟩
  | .name fields, enclosing, .text bytes => do
    let s ← textOf bytes
    return ⟨enclosing, .colon fields s⟩
  | .colon fields name, _ :: outer, .colon => .ok ⟨.object fields name :: outer, .value⟩
  | .separator last, .array items :: outer, .comma => .ok ⟨.array (last :: items) :: outer, .value⟩
  | .separator last, .array items :: outer, .closeArray =>
    .ok ⟨outer, .separator (.arr (last :: items).reverse)⟩
  | .separator last, .object fields name :: outer, .comma =>
    .ok ⟨.object fields name :: outer, .name (fields.insert name last)⟩
  | .separator last, .object fields name :: outer, .closeObject =>
    .ok ⟨outer, .separator (.obj (fields.insert name last))⟩
  | _, _, _ => .error .malformed

/-- Reads the tokens of the remaining bytes. -/
def run (maxDepth : Nat) (reader : Reader) (bytes : List UInt8) : Except ReadError Json :=
  match _h : bytes.dropWhile Token.isBlankByte with
  | [] =>
    match reader.expect, reader.enclosing with
    | .separator value, [] => .ok value
    | _, _ => .error .malformed
  | b :: more =>
    match Token.next? (b :: more) with
    | none => .error .malformed
    | some (token, rest) =>
      match reader.step maxDepth token with
      | .error e => .error e
      | .ok reader => reader.run maxDepth rest
termination_by bytes.length
decreasing_by
  have blanks := (List.dropWhile_suffix (l := bytes) Token.isBlankByte).length_le
  have := rest.property
  simp only [_h] at blanks
  omega

end Reader

/-- Reads a document in which so many arrays and objects may be open at once. -/
def read (maxDepth : Nat) (bytes : List UInt8) : Except ReadError Json :=
  Reader.start.run maxDepth bytes

end Catalogue.Json
