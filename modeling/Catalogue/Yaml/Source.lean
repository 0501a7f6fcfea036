import Catalogue.Yaml.Cursor
import Catalogue.Yaml.Fault

/-!
# Sources of YAML documents

A document is read in portions while its tokens are.  A fault in its bytes, or a character that no
document may contain, is met when the portion with it is asked for; what has been read before is
read as if there were none, and may have a fault of its own.
-/

namespace Catalogue.Yaml

/-- The characters that a document may contain. -/
def isAllowed (c : Char) : Bool :=
  let n := c.toNat
  n = 0x9 || n = 0xA || n = 0xD || (0x20 ≤ n && n ≤ 0x7E) || n = 0x85 || (0xA0 ≤ n && n ≤ 0xFFFD) ||
    0x10000 ≤ n

/-- Replaces carriage returns, alone or before a newline, by newlines. -/
def withNewlines : List Char → List Char
  | [] => []
  | '\r' :: '\n' :: rest => '\n' :: withNewlines rest
  | c :: rest => (if c = '\r' then '\n' else c) :: withNewlines rest

/-- A document without the mark of byte order at its start. -/
def withoutOrderMark : List Char → List Char
  | [] => []
  | c :: rest => if c = orderMark then rest else c :: rest

/-- The characters of a document that can be read, and why there are no more, unless it ends there.
-/
structure Source where
  text : List Char
  fault : Option Fault := none

namespace Source

/-- The number of characters in a portion.  The first two portions are asked for at once. -/
def portion : Nat := 4096

/-- The number of characters in the portions before the one that has a fault after some number of
characters. -/
def available (count : Nat) : Nat :=
  if count < 2 * portion then 0 else count / portion * portion

/-- The source with some characters, after which there may be a fault in the bytes. -/
def ofText (text : List Char) (fault : Option Fault) : Source :=
  let allowed := (text.takeWhile isAllowed).length
  let isClean := allowed = text.length
  match fault with
  | none => if isClean then ⟨text, none⟩ else ⟨text.take (available allowed), some .malformed⟩
  | some fault =>
    if isClean || available text.length = available allowed then
      ⟨text.take (available text.length), some fault⟩
    else
      ⟨text.take (available allowed), some .malformed⟩

/-- The source with some bytes. -/
def ofBytes (bytes : List UInt8) : Source :=
  let (text, fault) := Text.Utf8.readPieces { portion } [] bytes
  let source := ofText (withNewlines text) (fault.map .undecodable)
  { source with text := withoutOrderMark source.text }

end Source

end Catalogue.Yaml
