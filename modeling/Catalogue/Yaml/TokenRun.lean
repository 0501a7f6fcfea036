import Catalogue.Yaml.BlockText
import Catalogue.Yaml.Source
import Catalogue.Yaml.Token

/-!
# Reading tokens

Tokens are read from left to right.  Three things are kept in mind on the way.  The columns of the
open blocks tell which of them a line ends, and whether a line begins a new one.  The number of open
brackets tells whether columns count at all.  And at every level of brackets there may be one place
where a key may have begun: a key is only seen to be one by the colon after it, which has to stand
on the same line and not too far away, and its mark is then put in front of it.
-/

namespace Catalogue.Yaml

/-- A place where a key may have begun. -/
structure Candidate where
  /-- The number of brackets that are open there. -/
  level : Nat
  /-- The number of tokens before it. -/
  position : Nat
  place : Place
  /-- Whether a key has to begin here: at the column of the innermost block. -/
  isRequired : Bool

/-- The greatest number of characters of a key. -/
def maxKeyLength : Nat := 1024

/-- Whether a candidate is too far away from a place to be a key that ends there. -/
def Candidate.isStale (k : Candidate) (place : Place) : Bool :=
  k.place.line ≠ place.line || maxKeyLength < place.index - k.place.index

/-- How far the tokens of a document have been read. -/
structure TokenRun where
  cursor : Cursor
  /-- The tokens so far, the last one first. -/
  tokens : List Token := []
  /-- The number of tokens so far. -/
  size : Nat := 0
  /-- The number of open brackets. -/
  brackets : Nat := 0
  /-- The columns of the open blocks, the innermost first. -/
  columns : List Nat := []
  /-- Whether a block or a key may begin here. -/
  mayOpen : Bool := true
  candidates : List Candidate := []
  /-- Why there are no more characters, unless the document ends there. -/
  ending : Option Fault := none

namespace TokenRun

/-- The column. -/
def column (r : TokenRun) : Nat := r.cursor.column

/-- A run with one more token. -/
def push (r : TokenRun) (t : Token) : TokenRun :=
  { r with tokens := t :: r.tokens, size := r.size + 1 }

/-- A run with a token put at an earlier position. -/
def insert (r : TokenRun) (position : Nat) (t : Token) : TokenRun :=
  let later := r.size - position
  { r with tokens := r.tokens.take later ++ t :: r.tokens.drop later, size := r.size + 1 }

/-- A run a number of characters further. -/
def advance (r : TokenRun) (n : Nat) : TokenRun :=
  { r with cursor := r.cursor.drop n }

/-- Drops the candidates that some test finds; one that has to be a key must not be among them. -/
def dropWhere (r : TokenRun) (test : Candidate → Bool) : Except Fault TokenRun :=
  if r.candidates.any fun k => test k && k.isRequired then .error .malformed
  else .ok { r with candidates := r.candidates.filter (!test ·) }

/-- Drops the candidates that are too far away. -/
def dropStale (r : TokenRun) : Except Fault TokenRun :=
  r.dropWhere (·.isStale r.cursor.place)

/-- Drops the candidate of the open brackets. -/
def dropCandidate (r : TokenRun) : Except Fault TokenRun :=
  r.dropWhere (·.level = r.brackets)

/-- Makes the next token a candidate, where one may begin. -/
def addCandidate (r : TokenRun) : Except Fault TokenRun := do
  if r.mayOpen then
    let isRequired := r.brackets = 0 && r.columns.head? = some r.column
    let r ← r.dropCandidate
    return { r with candidates := ⟨r.brackets, r.size, r.cursor.place, isRequired⟩ :: r.candidates }
  else
    return r

/-- Ends the blocks that some test on their columns finds, from the innermost outwards.  Within
brackets no block ends. -/
def endBlocks (r : TokenRun) (test : Nat → Bool) : TokenRun :=
  if r.brackets = 0 then
    let ended := r.columns.takeWhile test
    { r with
      tokens := ended.map (fun _ => .blockEnd) ++ r.tokens
      size := r.size + ended.length
      columns := r.columns.dropWhile test }
  else
    r

/-- Whether a block that begins at a column is inside of all open ones. -/
def isInner (r : TokenRun) (column : Nat) : Bool :=
  r.columns.head?.all (· < column)

/-- Begins a block here, unless there is one at this column.  Within brackets no block begins. -/
def beginBlock (r : TokenRun) (t : Token) : Except Fault TokenRun :=
  if 0 < r.brackets then .ok r
  else if !r.mayOpen then .error .malformed
  else if r.isInner r.column then .ok { r.push t with columns := r.column :: r.columns }
  else .ok r

/-- Reads a mark that ends all blocks. -/
def readOuter (r : TokenRun) (t : Token) (after : Cursor) : Except Fault TokenRun := do
  let r ← (r.endBlocks fun _ => true).dropCandidate
  return { r.push t with cursor := after, mayOpen := false }

/-- Reads a directive. -/
def readDirective (r : TokenRun) : Except Fault TokenRun :=
  match readDirective? r.cursor with
  | some (d, after) => r.readOuter (.directive d) after
  | none => .error .malformed

/-- Reads an opening bracket. -/
def readOpen (r : TokenRun) (t : Token) : Except Fault TokenRun := do
  let r ← r.addCandidate
  return { (r.push t).advance 1 with brackets := r.brackets + 1, mayOpen := true }

/-- Reads a closing bracket. -/
def readClose (r : TokenRun) (t : Token) : Except Fault TokenRun := do
  let r ← r.dropCandidate
  return { (r.push t).advance 1 with brackets := r.brackets - 1, mayOpen := false }

/-- Reads the comma between the entries of brackets. -/
def readSeparator (r : TokenRun) : Except Fault TokenRun := do
  let r ← r.dropCandidate
  return { (r.push .separator).advance 1 with mayOpen := true }

/-- Reads the dash before an entry. -/
def readEntry (r : TokenRun) : Except Fault TokenRun := do
  let r ← (← r.beginBlock .blockList).dropCandidate
  return { (r.push .entry).advance 1 with mayOpen := true }

/-- Reads the question mark before a key. -/
def readKey (r : TokenRun) : Except Fault TokenRun := do
  let r ← (← r.beginBlock .blockMapping).dropCandidate
  return { (r.push .key).advance 1 with mayOpen := r.brackets = 0 }

/-- Reads the colon after a key.  A candidate is then known to be that key, and may begin a block.
-/
def readValue (r : TokenRun) : Except Fault TokenRun := do
  match r.candidates.find? (·.level = r.brackets) with
  | some k =>
    let r := { r.insert k.position .key with
      candidates := r.candidates.filter (·.level ≠ r.brackets), mayOpen := false }
    let r :=
      if r.brackets = 0 && r.isInner k.place.column then
        { r.insert k.position .blockMapping with columns := k.place.column :: r.columns }
      else
        r
    return (r.push .value).advance 1
  | none =>
    let r ← r.beginBlock .blockMapping
    return { (r.push .value).advance 1 with mayOpen := r.brackets = 0 }

/-- Reads a token that may begin a key. -/
def readKeyPart (r : TokenRun) (t : Token) (after : Cursor) (mayOpen : Bool) :
    Except Fault TokenRun := do
  let r ← r.addCandidate
  return { r.push t with cursor := after, mayOpen }

/-- Reads a name with its mark. -/
def readNamed (r : TokenRun) (token : String → Token) : Except Fault TokenRun :=
  match readAnchor? r.cursor.next with
  | some (name, after) => r.readKeyPart (token name) after false
  | none => .error .malformed

/-- Reads a tag. -/
def readTag (r : TokenRun) : Except Fault TokenRun :=
  match readTag? r.cursor with
  | some (tag, after) => r.readKeyPart (.tag tag) after false
  | none => .error .malformed

/-- The least column of lines inside the innermost block. -/
def floor (r : TokenRun) : Nat :=
  (r.columns.head?.map (· + 1)).getD 0

/-- Reads a text in lines of its own. -/
def readBlockText (r : TokenRun) (folded : Bool) : Except Fault TokenRun := do
  let r ← r.dropCandidate
  match readBlock? folded r.floor r.cursor.next with
  | some (text, after) =>
    return { r.push (.text (String.ofList text) false) with cursor := after, mayOpen := true }
  | none => .error .malformed

/-- Reads a text between quotes. -/
def readQuotedText (r : TokenRun) (mark : Char) : Except Fault TokenRun := do
  let r ← r.addCandidate
  let found ← readQuoted (r.ending.getD .malformed) mark r.cursor.next
  return { r.push (.text (String.ofList found.text) false) with
    cursor := found.after, mayOpen := false }

/-- Reads a plain text. -/
def readPlainText (r : TokenRun) : Except Fault TokenRun :=
  let found := readPlain (0 < r.brackets) r.floor r.cursor
  r.readKeyPart (.text (String.ofList found.text) true) found.after found.isBroken

/-- Ends a run at the end of all characters. -/
def finish (r : TokenRun) : Except Fault TokenRun :=
  match r.ending with
  | none => r.readOuter .finish r.cursor
  | some fault => .error fault

/-- Reads the token that starts with a character. -/
def readToken (r : TokenRun) (c : Char) (rest : List Char) : Except Fault TokenRun :=
  let inFlow := 0 < r.brackets
  if r.column = 0 && c = '%' then r.readDirective
  else if r.column = 0 && startsWithTriple '-' (c :: rest) then
    r.readOuter .documentStart (r.cursor.drop 3)
  else if r.column = 0 && startsWithTriple '.' (c :: rest) then
    r.readOuter .documentEnd (r.cursor.drop 3)
  else if c = '[' then r.readOpen .listOpen
  else if c = '{' then r.readOpen .mappingOpen
  else if c = ']' then r.readClose .listClose
  else if c = '}' then r.readClose .mappingClose
  else if c = ',' then r.readSeparator
  else if c = '-' && endsMark rest then r.readEntry
  else if c = '?' && (inFlow || endsMark rest) then r.readKey
  else if c = ':' && (inFlow || endsMark rest) then r.readValue
  else if c = '*' then r.readNamed .alias
  else if c = '&' then r.readNamed .anchor
  else if c = '!' then r.readTag
  else if (c = '|' || c = '>') && !inFlow then r.readBlockText (c = '>')
  else if c = '\'' || c = '"' then r.readQuotedText c
  else if startsPlain inFlow c rest then r.readPlainText
  else .error .malformed

/-- Passes blanks.  After the end of a line a block or key may begin, unless brackets are open. -/
def skipBlanks (r : TokenRun) : TokenRun :=
  let (broken, cursor) := r.cursor.skipBlanks
  { r with cursor, mayOpen := r.mayOpen || (broken && r.brackets = 0) }

/-- Reads the next token, with the ends of the blocks before it. -/
def step (r : TokenRun) : Except Fault TokenRun := do
  let r ← r.skipBlanks.dropStale
  let r := r.endBlocks (r.column < ·)
  match r.cursor.rest with
  | [] => r.finish
  | c :: rest => r.readToken c rest

/-- The tokens that are known for sure: those before the first candidate. -/
def settled (r : TokenRun) : List Token :=
  let first := r.candidates.foldl (fun n k => min n k.position) r.size
  (r.tokens.drop (r.size - first)).reverse

/-- Whether the last token has been read. -/
def isFinished (r : TokenRun) : Bool :=
  r.tokens.head? = some .finish

/-- Reads all tokens.  Every token takes one unit of fuel.  A fault comes after the tokens that were
known for sure before it. -/
def readAll (fuel : Nat) (r : TokenRun) : List Token :=
  match fuel with
  | 0 => r.settled ++ [.broken .malformed]
  | fuel + 1 =>
    match r.dropStale with
    | .error fault => r.settled ++ [.broken fault]
    | .ok r =>
      match r.step with
      | .error fault => r.settled ++ [.broken fault]
      | .ok next => if next.isFinished then next.tokens.reverse else readAll fuel next

end TokenRun

/-- The tokens of a document. -/
def Token.read (source : Source) : List Token :=
  TokenRun.readAll (source.text.length + 1)
    { cursor := ⟨{}, source.text⟩, ending := source.fault }

end Catalogue.Yaml
