/-!
# Bytes as text

Base 64 writes three bytes as four characters of six bits each; equals signs fill up the last four.
Reading is lenient: characters of no value are passed over, and so are equals signs that fill up
nothing.
-/

namespace Catalogue.Text.Base64

/-- The six bits that a character stands for. -/
def value? (c : Char) : Option Nat :=
  if 'A' ≤ c ∧ c ≤ 'Z' then some (c.toNat - 0x41)
  else if 'a' ≤ c ∧ c ≤ 'z' then some (c.toNat - 0x61 + 26)
  else if c.isDigit then some (c.toNat - 0x30 + 52)
  else if c = '+' then some 62
  else if c = '/' then some 63
  else none

/-- Reads on with the bytes before in reverse, where `place` characters of four have been read that
leave the bits of `left` over, and `fills` equals signs follow them.  A text ends where four
characters are filled up, or else between four and the next four. -/
def decodeFrom (done : List UInt8) (place left fills : Nat) : List Char → Option (List UInt8)
  | [] => if place = 0 then some done.reverse else none
  | c :: rest =>
    if c = '=' then
      if place < 2 then decodeFrom done place left fills rest
      else if 4 ≤ place + fills + 1 then some done.reverse
      else decodeFrom done place left (fills + 1) rest
    else
      match value? c with
      | none => decodeFrom done place left fills rest
      | some bits =>
        let bits := left * 64 + bits
        let spare := Nat.pow 4 (3 - place)
        let done := if place = 0 then done else UInt8.ofNat (bits / spare) :: done
        decodeFrom done ((place + 1) % 4) (bits % spare) 0 rest

/-- The bytes that a text writes. -/
def decode (cs : List Char) : Option (List UInt8) :=
  decodeFrom [] 0 0 0 cs

end Catalogue.Text.Base64
