/-!
# Tag colours

Every tag has a colour of a fixed palette that depends on its name alone.  The name is hashed over
its UTF-16 code units: the hash is multiplied by 31 by shifting it five places and subtracting it,
and the next unit is added.  Only the shift works on 32 bits; the hash itself is an unbounded
integer.
-/

namespace Catalogue

/-- A colour of the palette: its name, and the style that draws it. -/
structure TagColor where
  name : String
  style : String
  deriving DecidableEq, Repr

namespace TagColor

/-- The colours of tags, in order. -/
def palette : List TagColor := [
  ⟨"red", "red"⟩,
  ⟨"orange", "dark_orange"⟩,
  ⟨"amber", "orange1"⟩,
  ⟨"yellow", "yellow"⟩,
  ⟨"lime", "chartreuse3"⟩,
  ⟨"green", "green"⟩,
  ⟨"emerald", "spring_green3"⟩,
  ⟨"teal", "dark_cyan"⟩,
  ⟨"cyan", "cyan"⟩,
  ⟨"sky", "deep_sky_blue1"⟩,
  ⟨"blue", "blue"⟩,
  ⟨"indigo", "slate_blue1"⟩,
  ⟨"violet", "medium_purple"⟩,
  ⟨"purple", "purple"⟩,
  ⟨"fuchsia", "magenta"⟩,
  ⟨"pink", "hot_pink"⟩,
  ⟨"rose", "light_coral"⟩]

/-- The UTF-16 code units of a character. -/
def unitsOfChar (c : Char) : List Nat :=
  let n := c.toNat
  if n < 0x10000 then [n] else [0xD800 + (n - 0x10000) / 0x400, 0xDC00 + (n - 0x10000) % 0x400]

/-- The UTF-16 code units of a text. -/
def units (s : String) : List Nat :=
  s.toList.flatMap unitsOfChar

/-- The signed 32-bit integer with the same last 32 bits. -/
def wrap32 (n : Int) : Int :=
  n.bmod 0x100000000

/-- The hash after one more code unit. -/
def step (h : Int) (unit : Nat) : Int :=
  unit + (wrap32 (wrap32 h * 32) - h)

/-- The hash of a text. -/
def hash (s : String) : Int :=
  (units s).foldl step 0

/-- The place of a text's colour in the palette. -/
def index (s : String) : Nat :=
  (hash s).natAbs % palette.length

/-- The colour of a tag. -/
def ofTag (s : String) : TagColor :=
  palette.get ⟨index s, Nat.mod_lt _ (by decide)⟩

end TagColor

end Catalogue
