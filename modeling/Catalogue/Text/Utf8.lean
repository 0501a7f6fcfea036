import Catalogue.Text.Quoted

/-!
# Texts as bytes

Decoding of UTF-8, one byte at a time.  The decoder refuses at the first byte that rules the text
out, and reports where the sequence it was reading began and how many of its bytes were good.
Overlong forms, surrogates and numbers beyond the last code point are refused at their second byte,
or at their first where no second byte can save them.  A file is decoded piece by piece.
-/

namespace Catalogue.Text

/-- What rules a byte sequence out. -/
inductive Utf8Fault where
  /-- No character begins with this byte. -/
  | start
  /-- A sequence is followed by a byte that cannot continue it. -/
  | continuation
  /-- The bytes end inside a sequence. -/
  | ending
  deriving DecidableEq, Repr

/-- A refused byte sequence: what is wrong, the position of the sequence, its first byte, and how
many bytes of it were read before the fault. -/
structure Utf8Error where
  fault : Utf8Fault
  position : Nat
  first : UInt8
  length : Nat
  deriving DecidableEq, Repr

/-- What is wrong with the bytes of a sequence, in words. -/
def Utf8Fault.message : Utf8Fault → String
  | .start => "invalid start byte"
  | .continuation => "invalid continuation byte"
  | .ending => "unexpected end of data"

/-- Names the byte or the positions that could not be decoded. -/
def Utf8Error.message (e : Utf8Error) : String :=
  let culprit :=
    if e.length = 1 then
      "byte 0x" ++ String.ofList (hexDigits 2 e.first.toNat) ++ " in position " ++
        toString e.position
    else
      "bytes in position " ++ toString e.position ++ "-" ++ toString (e.position + e.length - 1)
  "'utf-8' codec can't decode " ++ culprit ++ ": " ++ e.fault.message

namespace Utf8

/-- A sequence that has begun: where, with which byte, how many bytes it has, how many it still
needs, the bounds on the next one, and the number read so far. -/
structure Pending where
  position : Nat
  first : UInt8
  length : Nat
  missing : Nat
  low : Nat
  high : Nat
  value : Nat

/-- What a byte begins: a character by itself, a longer sequence, or nothing. -/
inductive Opening where
  | single (c : Char)
  | sequence (p : Pending)
  | none

/-- The second byte of a three-byte or four-byte sequence is bounded so that every number is
written in the shortest way and is no surrogate. -/
def opening (position : Nat) (b : UInt8) : Opening :=
  let n := b.toNat
  if n < 0x80 then .single (Char.ofNat n)
  else if n < 0xC2 then .none
  else if n < 0xE0 then .sequence ⟨position, b, 1, 1, 0x80, 0xBF, n - 0xC0⟩
  else if n < 0xF0 then
    .sequence ⟨position, b, 1, 2, if n = 0xE0 then 0xA0 else 0x80, if n = 0xED then 0x9F else 0xBF,
      n - 0xE0⟩
  else if n < 0xF5 then
    .sequence ⟨position, b, 1, 3, if n = 0xF0 then 0x90 else 0x80, if n = 0xF4 then 0x8F else 0xBF,
      n - 0xF0⟩
  else .none

/-- Reads bytes from a position on, with the characters read before in reverse and the sequence that
is still incomplete.  Tells the characters before the first fault, and the fault. -/
def readFrom (position : Nat) (done : List Char) (pending : Option Pending) :
    List UInt8 → List Char × Option Utf8Error
  | [] => (done.reverse, pending.map fun p => ⟨.ending, p.position, p.first, p.length⟩)
  | b :: rest =>
    match pending with
    | none =>
      match opening position b with
      | .single c => readFrom (position + 1) (c :: done) none rest
      | .sequence p => readFrom (position + 1) done (some p) rest
      | .none => (done.reverse, some ⟨.start, position, b, 1⟩)
    | some p =>
      if p.low ≤ b.toNat ∧ b.toNat ≤ p.high then
        let value := p.value * 64 + (b.toNat - 0x80)
        if p.missing = 1 then
          readFrom (position + 1) (Char.ofNat value :: done) none rest
        else
          readFrom (position + 1) done
            (some ⟨p.position, p.first, p.length + 1, p.missing - 1, 0x80, 0xBF, value⟩) rest
      else
        (done.reverse, some ⟨.continuation, p.position, p.first, p.length⟩)

/-- The characters before the first fault of a byte sequence, and the fault. -/
def read (bytes : List UInt8) : List Char × Option Utf8Error :=
  readFrom 0 [] none bytes

/-- The characters that a byte sequence writes. -/
def decode (bytes : List UInt8) : Except Utf8Error (List Char) :=
  match read bytes with
  | (cs, none) => .ok cs
  | (_, some e) => .error e

/-- How far a file has been decoded that is asked for in portions of some number of characters. -/
structure Progress where
  portion : Nat
  /-- The number of characters so far. -/
  count : Nat := 0
  /-- The number of bytes in the last piece. -/
  bytes : Nat := 0
  /-- The number of characters in the last piece. -/
  characters : Nat := 0

namespace Progress

/-- The least number of bytes in a piece of a file. -/
def leastPiece : Nat := 8192

/-- The number of bytes in the next piece: as many as the characters that the portion still needs
would have in the last piece. -/
def piece (p : Progress) : Nat :=
  max leastPiece (p.bytes * (p.portion - p.count % p.portion) / p.characters)

/-- A file with one more piece decoded.  A carriage return before a newline is not counted. -/
def next (p : Progress) (bytes : Nat) (cs : List Char) : Progress :=
  let pairs := (cs.zip (cs.drop 1)).countP (· = ('\r', '\n'))
  let characters := cs.length - pairs
  { p with count := p.count + characters, bytes, characters }

end Progress

/-- Reads bytes piece by piece, where `begun` are the bytes of a sequence that has begun in the
piece before.  Positions are counted from the first of these bytes, or else from the start of the
piece. -/
def readPieces (progress : Progress) (begun bytes : List UInt8) : List Char × Option Utf8Error :=
  match bytes with
  | [] => read begun
  | b :: rest =>
    let size := progress.piece
    let piece := (b :: rest).take size
    let (cs, fault) := read (begun ++ piece)
    let more (begun : List UInt8) :=
      let (later, fault) := readPieces (progress.next piece.length cs) begun ((b :: rest).drop size)
      (cs ++ later, fault)
    match fault with
    | none => more []
    | some e =>
      if e.fault = .ending then more ((begun ++ piece).drop e.position) else (cs, some e)
termination_by bytes.length
decreasing_by
  have : 8192 ≤ progress.piece := Nat.le_max_left _ _
  simp only [List.length_drop, List.length_cons]
  omega

/-- The bytes of a code point. -/
def encodeChar (c : Char) : List UInt8 :=
  let n := c.toNat
  if n < 0x80 then [UInt8.ofNat n]
  else if n < 0x800 then [UInt8.ofNat (0xC0 + n / 64), UInt8.ofNat (0x80 + n % 64)]
  else if n < 0x10000 then
    [UInt8.ofNat (0xE0 + n / 4096), UInt8.ofNat (0x80 + n / 64 % 64), UInt8.ofNat (0x80 + n % 64)]
  else
    [UInt8.ofNat (0xF0 + n / 262144), UInt8.ofNat (0x80 + n / 4096 % 64),
      UInt8.ofNat (0x80 + n / 64 % 64), UInt8.ofNat (0x80 + n % 64)]

/-- The bytes of a text. -/
def encode (cs : List Char) : List UInt8 :=
  cs.flatMap encodeChar

end Utf8

end Catalogue.Text
