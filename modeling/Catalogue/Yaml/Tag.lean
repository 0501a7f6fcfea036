import Catalogue.Text.Utf8
import Catalogue.Yaml.Text

/-!
# Tags

A tag says what kind of value a node stands for.  It is written with a handle, which stands for the
beginning of the tag, and a suffix.  A directive before a document can set what a handle stands for.
A node may also have a name, its anchor, by which it can be used again.
-/

namespace Catalogue.Yaml

/-- A tag as it is written. -/
structure WrittenTag where
  handle : Option String
  suffix : String
  deriving DecidableEq, Repr

/-- The kinds of values. -/
inductive Tag where
  | null
  | bool
  | int
  | float
  | moment
  | text
  | bytes
  | list
  /-- A list of mappings of one entry, each of which stands for a pair. -/
  | pairs
  | mapping
  /-- A mapping whose keys stand for themselves. -/
  | set
  /-- The mark of a mapping whose entries are merged into another one. -/
  | merge
  /-- The mark of the default value of a mapping. -/
  | default
  /-- Leaves the kind to the text of the node. -/
  | unspecific
  /-- Any other kind. -/
  | foreign
  deriving DecidableEq, Repr

/-- What directives say. -/
inductive Directive where
  /-- The major version of the format. -/
  | version (major : Nat)
  /-- What a handle stands for. -/
  | handle (name meaning : String)
  | other
  deriving DecidableEq, Repr

/-- What handles stand for. -/
abbrev Handles := List (String × String)

/-- The beginning of the tags of the format. -/
def coreBeginning : String := "tag:yaml.org,2002:"

/-- The handles that every document knows. -/
def defaultHandles : Handles :=
  [("!", "!"), ("!!", coreBeginning)]

namespace Tag

/-- Whether a tag is that of values with parts. -/
def isCollection : Tag → Bool
  | .list => true
  | .pairs => true
  | .mapping => true
  | .set => true
  | _ => false

/-- Whether a tag is that of values without parts. -/
def isScalar : Tag → Bool
  | .null => true
  | .bool => true
  | .int => true
  | .float => true
  | .moment => true
  | .text => true
  | .bytes => true
  | _ => false

/-- The tags of the format without their common beginning. -/
def names : List (String × Tag) :=
  [("null", .null), ("bool", .bool), ("int", .int), ("float", .float), ("timestamp", .moment),
    ("str", .text), ("binary", .bytes), ("seq", .list), ("omap", .pairs), ("pairs", .pairs),
    ("map", .mapping), ("set", .set), ("merge", .merge), ("value", .default)]

/-- The tag with a full name. -/
def ofName (name : String) : Tag :=
  if name = "!" then .unspecific
  else ((names.map fun entry => (coreBeginning ++ entry.1, entry.2)).lookup name).getD .foreign

/-- The tag that is written, if its handle stands for something. -/
def ofWritten? (handles : Handles) (written : WrittenTag) : Option Tag :=
  match written.handle with
  | none => some (ofName written.suffix)
  | some handle =>
    (handles.lookup handle).map fun beginning => ofName (beginning ++ written.suffix)

end Tag

/-- Whether a character can stand in the name of an anchor, a handle or a directive. -/
def isNameChar (c : Char) : Bool :=
  c.isAlphanum || c = '-' || c = '_'

/-- Whether a character can stand in the suffix of a tag. -/
def isSuffixChar (c : Char) : Bool :=
  c.isAlphanum || "-;/?:@&=+$,_.!~*'()[]%".toList.contains c

/-- Takes a name from the front. -/
def name? (c : Cursor) : Option (String × Cursor) :=
  let (name, after) := c.span isNameChar
  if name = [] then none else some (String.ofList name, after)

/-- Whether the name of an anchor may end where these characters follow. -/
def endsAnchor (cs : List Char) : Bool :=
  endsMark cs ||
    (cs.head?.map fun c => "?:,]\x7d%@".toList.contains c || c.toNat = 0x60).getD false

/-- Reads the name of an anchor. -/
def readAnchor? (c : Cursor) : Option (String × Cursor) := do
  let (name, after) ← name? c
  if endsAnchor after.rest then some (name, after) else none

/-- The suffix that is written, where `bytes` are what the escapes right before these characters
stand for.  A percent sign and two hexadecimal digits stand for a byte of UTF-8. -/
def unescape? (bytes : List UInt8) : List Char → Option (List Char)
  | '%' :: a :: b :: rest => do
    let high ← hexValue? a
    let low ← hexValue? b
    unescape? (bytes ++ [UInt8.ofNat (16 * high + low)]) rest
  | '%' :: _ => none
  | c :: rest => return (← decoded?) ++ c :: (← unescape? [] rest)
  | [] => decoded?
where
  /-- The characters that the bytes stand for. -/
  decoded? : Option (List Char) := (Text.Utf8.decode bytes).toOption

/-- Takes the suffix of a tag from the front. -/
def suffix? (c : Cursor) : Option (String × Cursor) := do
  let (written, after) := c.span isSuffixChar
  let suffix ← unescape? [] written
  if suffix = [] then none else some (String.ofList suffix, after)

/-- Takes a handle from the front: an exclamation mark, or a name between two of them. -/
def handle? (c : Cursor) : Option (String × Cursor) :=
  match c.rest with
  | '!' :: ' ' :: _ => some ("!", c.next)
  | '!' :: _ =>
    let (name, after) := c.next.span isNameChar
    match after.rest with
    | '!' :: _ => some (String.ofList ('!' :: name ++ ['!']), after.next)
    | _ => none
  | _ => none

/-- Reads a tag from its exclamation mark on. -/
def readTag? (c : Cursor) : Option (WrittenTag × Cursor) := do
  let (tag, after) ←
    match c.rest with
    | _ :: '<' :: _ => do
      let (suffix, after) ← suffix? (c.drop 2)
      if after.rest.head? = some '>' then some (⟨none, suffix⟩, after.next) else none
    | _ :: rest =>
      if endsMark rest then
        some (⟨none, "!"⟩, c.next)
      else if (rest.takeWhile fun d => !endsName [d]).contains '!' then do
        let (handle, after) ← handle? c
        let (suffix, after) ← suffix? after
        some (⟨some handle, suffix⟩, after)
      else do
        let (suffix, after) ← suffix? c.next
        some (⟨some "!", suffix⟩, after)
    | [] => none
  if endsName after.rest then some (tag, after) else none

/-- Takes a number from the front. -/
def decimal? (c : Cursor) : Option (Nat × Cursor) :=
  let (digits, after) := c.span Char.isDigit
  if digits = [] then none
  else some (digits.foldl (fun n d => 10 * n + (d.toNat - 0x30)) 0, after)

/-- Reads what a directive with a name says. -/
def directiveBody? (name : String) (c : Cursor) : Option (Directive × Cursor) :=
  let start := c.skipWhile (· = ' ')
  match name with
  | "YAML" => do
    let (major, after) ← decimal? start
    if after.rest.head? = some '.' then do
      let (_, after) ← decimal? after.next
      if endsName after.rest then some (.version major, after) else none
    else
      none
  | "TAG" => do
    let (handle, after) ← handle? start
    if after.rest.head? = some ' ' then do
      let (meaning, after) ← suffix? (after.skipWhile (· = ' '))
      if endsName after.rest then some (.handle handle meaning, after) else none
    else
      none
  | _ => some (.other, c.skipWhile (!isBreak ·))

/-- Reads a directive from its percent sign on, with its line. -/
def readDirective? (c : Cursor) : Option (Directive × Cursor) := do
  let (name, after) ← name? c.next
  if endsName after.rest then do
    let (directive, after) ← directiveBody? name after
    return (directive, ← after.endLine?)
  else
    none

end Catalogue.Yaml
