import Catalogue.Text.Case.Table

/-!
# Letter case

The full case mappings of texts: lower case, upper case, case folding, and the exchange of upper and
lower case.  All but the mappings of the capital sigma act on each character by itself.  A capital
sigma becomes the final form of the small letter when a cased letter precedes it and none follows,
case-ignorable characters being skipped on both sides.
-/

namespace Catalogue.Text

/-- Where a run moves a code point, if it lists it. -/
def CaseRun.target? (run : CaseRun) (n : Nat) : Option Nat :=
  if run.first ≤ n ∧ n ≤ run.last ∧ (n - run.first) % run.step = 0 then
    some (n + run.shift).toNat
  else
    none

/-- Whether one of the ranges contains the code point. -/
def inRanges (ranges : List (Nat × Nat)) (n : Nat) : Bool :=
  ranges.any fun range => range.1 ≤ n && n ≤ range.2

/-- The image of a code point under a table of runs, if the table lists it. -/
def movedBy? (runs : List CaseRun) (c : Char) : Option Char :=
  (runs.findSome? (·.target? c.toNat)).map Char.ofNat

/-- The characters that a table lists for a code point, if it does. -/
def expandedBy? (table : List (Nat × List Nat)) (c : Char) : Option (List Char) :=
  (table.lookup c.toNat).map (·.map Char.ofNat)

/-- The characters of ASCII, whose case mappings need no table. -/
def isAscii (c : Char) : Bool :=
  c.toNat < 0x80

/-- The lower case of a character that stands alone. -/
def lowerChar (c : Char) : List Char :=
  if isAscii c then
    [c.toLower]
  else if c = 'İ' then
    ['i', Char.ofNat 0x307]
  else
    [(movedBy? lowerRuns c).getD c]

/-- The upper case of a character. -/
def upperChar (c : Char) : List Char :=
  if isAscii c then
    [c.toUpper]
  else
    (expandedBy? upperExpansions c).getD [(movedBy? upperRuns c).getD c]

/-- The case folding of a character: equal for characters that differ in case only. -/
def foldChar (c : Char) : List Char :=
  if isAscii c then
    [c.toLower]
  else
    match expandedBy? foldExpansions c with
    | some cs => cs
    | none =>
      match movedBy? foldRuns c with
      | some d => [d]
      | none => lowerChar c

/-- Title-case letters are neither upper nor lower case. -/
def isTitlecase (c : Char) : Bool :=
  inRanges titlecaseRanges c.toNat

/-- Case-ignorable characters are transparent for the letters around them. -/
def isCaseIgnorable (c : Char) : Bool :=
  inRanges caseIgnorableRanges c.toNat

/-- The letters that have a case and are not case-ignorable. -/
def isCased (c : Char) : Bool :=
  if isAscii c then c.isAlpha else inRanges casedRanges c.toNat

/-- Whether the first character that is not case-ignorable is cased. -/
def startsCased (cs : List Char) : Bool :=
  match cs.dropWhile isCaseIgnorable with
  | [] => false
  | c :: _ => isCased c

/-- The small sigma for a capital one, given the characters before it in reverse and those after
it. -/
def smallSigma (before after : List Char) : Char :=
  if startsCased before && !startsCased after then 'ς' else 'σ'

/-- Lower case of the second list, whose characters follow the first list read in reverse. -/
def lowerAfter (before : List Char) : List Char → List Char
  | [] => []
  | c :: rest =>
    (if c = 'Σ' then [smallSigma before rest] else lowerChar c) ++ lowerAfter (c :: before) rest

/-- The lower case of a text. -/
def lowerChars (cs : List Char) : List Char :=
  lowerAfter [] cs

/-- The upper case of a text. -/
def upperChars (cs : List Char) : List Char :=
  cs.flatMap upperChar

/-- The case folding of a text. -/
def foldChars (cs : List Char) : List Char :=
  cs.flatMap foldChar

/-- Exchanges upper and lower case in the second list, whose characters follow the first list read
in reverse.  Title-case letters stay. -/
def swapAfter (before : List Char) : List Char → List Char
  | [] => []
  | c :: rest =>
    (if c = 'Σ' then [smallSigma before rest]
      else if isTitlecase c then [c]
      else if lowerChar c = [c] then upperChar c
      else lowerChar c) ++ swapAfter (c :: before) rest

/-- Exchanges upper and lower case in a text. -/
def swapChars (cs : List Char) : List Char :=
  swapAfter [] cs

/-- The lower case of a text. -/
def lower (s : String) : String :=
  String.ofList (lowerChars s.toList)

/-- The upper case of a text. -/
def upper (s : String) : String :=
  String.ofList (upperChars s.toList)

end Catalogue.Text
