import Catalogue.Yaml.Scalar
import Catalogue.Yaml.Token

/-!
# Nodes of a YAML document

A document is a tree of texts, lists and mappings.  Each node has a tag, which says what kind of
value it stands for, and may have a name, its anchor.  In place of a node there can be the name of
another one that has begun before it, and that may even be around it.
-/

namespace Catalogue.Yaml

/-- A part of a document with everything inside of it, except that aliases stand for other parts.
Every part has a place of its own, by which it is told apart from the others. -/
inductive Node where
  | text (place : Nat) (tag : Tag) (s : String)
  | list (place : Nat) (tag : Tag) (items : List Node)
  | mapping (place : Nat) (tag : Tag) (entries : List (Node × Node))
  | alias (name : String)
  deriving Repr, Inhabited

namespace Node

/-- A node that is left out. -/
def absent : Node := .text 0 .null ""

/-- The kind of a list or mapping, which is the usual one unless the tag says otherwise. -/
def collectionTag (usual : Tag) : Option Tag → Tag
  | none => usual
  | some .unspecific => usual
  | some tag => tag

/-- The kind of a text. -/
def textTag (s : String) (isPlain : Bool) : Option Tag → Tag
  | none => if isPlain then .ofPlain s else .text
  | some .unspecific => .ofPlain s
  | some tag => tag

end Node

/-- What remains of a document, and what is known from the part that has been read. -/
structure Pending where
  tokens : List Token
  handles : Handles := defaultHandles
  /-- The number of nodes and aliases that have begun. -/
  size : Nat := 0
  /-- The names of the nodes that have begun. -/
  names : List String := []
  /-- The named nodes that have been read, the last one first. -/
  named : List (String × Node) := []

/-- A step in reading nodes. -/
abbrev Reading := StateT Pending (Except Fault)

namespace Reading

/-- The next token. -/
def peek : Reading Token := do
  match (← get).tokens with
  | [] => throw .malformed
  | .broken fault :: _ => throw fault
  | token :: _ => return token

/-- Passes the next token. -/
def skip : Reading Unit :=
  modify fun p => { p with tokens := p.tokens.drop 1 }

/-- Passes the next token if it is a given one. -/
def skipIf (token : Token) : Reading Bool := do
  if (← peek) = token then
    skip
    return true
  else
    return false

/-- A place for a node. -/
def place : Reading Nat :=
  modifyGet fun p => (p.size, { p with size := p.size + 1 })

/-- The node that an anchor names. -/
def named (name : String) : Reading Node := do
  if (← get).names.contains name then return .alias name else throw .malformed

/-- Keeps a name for the node that is going to be read.  No two nodes have the same name. -/
def reserve : Option String → Reading Unit
  | none => return
  | some name => do
    if (← get).names.contains name then throw .malformed
    modify fun p => { p with names := name :: p.names }

/-- Names a node. -/
def name (anchor : Option String) (node : Node) : Reading Node := do
  match anchor with
  | none => return node
  | some name =>
    modify fun p => { p with named := (name, node) :: p.named }
    return node

/-- Reads an anchor, if there is one. -/
def anchor? : Reading (Option String) := do
  match ← peek with
  | .anchor name =>
    skip
    return some name
  | _ => return none

/-- Reads a tag, if there is one. -/
def tag? : Reading (Option WrittenTag) := do
  match ← peek with
  | .tag written =>
    skip
    return some written
  | _ => return none

/-- The tag that is written. -/
def resolve : Option WrittenTag → Reading (Option Tag)
  | none => return none
  | some written => do
    match Tag.ofWritten? (← get).handles written with
    | some tag => return some tag
    | none => throw .malformed

/-- Reads what stands before a node: an anchor and a tag, in any order. -/
def properties : Reading (Option String × Option Tag) := do
  match ← anchor? with
  | some anchor => return (some anchor, ← resolve (← tag?))
  | none =>
    let written ← tag?
    let anchor ← if written.isSome then anchor? else pure none
    return (anchor, ← resolve written)

/-- The number of levels that are left inside a list or mapping. -/
def inside : Nat → Reading Nat
  | 0 => throw .tooDeep
  | levels + 1 => return levels

/-- Passes the bracket that ends a list or mapping, or else the comma before its next entry, which
has none if it is the first; tells whether there was the bracket.  A comma may stand before it. -/
def endsFlow (close : Token) (isFirst : Bool) : Reading Bool := do
  if ← skipIf close then
    return true
  else if isFirst then
    return false
  else if ← skipIf .separator then
    skipIf close
  else
    throw .malformed

mutual

/-- Reads a node.  A list under a key may stand at the column of the key, so that there is no mark
of its beginning.  Here and below every call takes one unit of fuel, and `levels` counts how many
further lists and mappings there may be inside each other. -/
def node (fuel levels : Nat) (underKey : Bool) : Reading Node := do
  match fuel with
  | 0 => throw .malformed
  | fuel + 1 =>
    match ← peek with
    | .alias name =>
      skip
      let _ ← place
      named name
    | _ =>
      let (anchor, tag) ← properties
      let listTag := Node.collectionTag .list tag
      let mappingTag := Node.collectionTag .mapping tag
      let token ← peek
      reserve anchor
      let place ← place
      match token with
      | .text s isPlain =>
        skip
        name anchor (.text place (Node.textTag s isPlain tag) s)
      | .listOpen =>
        skip
        name anchor (.list place listTag (← flowItems fuel (← inside levels) []))
      | .mappingOpen =>
        skip
        name anchor (.mapping place mappingTag (← flowEntries fuel (← inside levels) []))
      | .blockList =>
        skip
        name anchor (.list place listTag (← blockItems fuel (← inside levels) []))
      | .blockMapping =>
        skip
        name anchor (.mapping place mappingTag (← blockEntries fuel (← inside levels) []))
      | _ =>
        if token = .entry ∧ underKey then
          name anchor (.list place listTag (← compactItems fuel (← inside levels) []))
        else if anchor.isSome ∨ tag.isSome then
          name anchor (.text place (Node.textTag "" true tag) "")
        else
          throw .malformed

/-- Reads a node that is left out where certain tokens follow. -/
def nodeUnless (fuel levels : Nat) (underKey : Bool) (ends : List Token) : Reading Node := do
  match fuel with
  | 0 => throw .malformed
  | fuel + 1 =>
    if ends.contains (← peek) then return .absent else node fuel levels underKey

/-- Reads what follows a key up to the value, and the value. -/
def valueAfter (fuel levels : Nat) (underKey : Bool) (ends : List Token) : Reading Node := do
  match fuel with
  | 0 => throw .malformed
  | fuel + 1 => do
    if ← skipIf .value then nodeUnless fuel levels underKey ends else return .absent

/-- Reads the remaining items of a list in brackets, with those before in reverse.  An item with a
key is a mapping of one entry. -/
def flowItems (fuel levels : Nat) (items : List Node) : Reading (List Node) := do
  match fuel with
  | 0 => throw .malformed
  | fuel + 1 =>
    if ← endsFlow .listClose items.isEmpty then
      return items.reverse
    else if ← skipIf .key then
      let within ← inside levels
      let key ← nodeUnless fuel within false [.value, .separator, .listClose]
      let value ← valueAfter fuel within false [.separator, .listClose]
      flowItems fuel levels (.mapping (← place) .mapping [(key, value)] :: items)
    else
      flowItems fuel levels ((← node fuel levels false) :: items)

/-- Reads the remaining entries of a mapping in brackets, with those before in reverse.  A key
without its mark has no value. -/
def flowEntries (fuel levels : Nat) (entries : List (Node × Node)) :
    Reading (List (Node × Node)) := do
  match fuel with
  | 0 => throw .malformed
  | fuel + 1 =>
    if ← endsFlow .mappingClose entries.isEmpty then
      return entries.reverse
    else if ← skipIf .key then
      let key ← nodeUnless fuel levels false [.value, .separator, .mappingClose]
      let value ← valueAfter fuel levels false [.separator, .mappingClose]
      flowEntries fuel levels ((key, value) :: entries)
    else
      flowEntries fuel levels ((← node fuel levels false, .absent) :: entries)

/-- Reads the remaining items of a list in lines of its own, with those before in reverse. -/
def blockItems (fuel levels : Nat) (items : List Node) : Reading (List Node) := do
  match fuel with
  | 0 => throw .malformed
  | fuel + 1 =>
    if ← skipIf .entry then
      blockItems fuel levels ((← nodeUnless fuel levels false [.entry, .blockEnd]) :: items)
    else if ← skipIf .blockEnd then
      return items.reverse
    else
      throw .malformed

/-- Reads the remaining items of a list at the column of its key, with those before in reverse.  It
ends where the next key begins. -/
def compactItems (fuel levels : Nat) (items : List Node) : Reading (List Node) := do
  match fuel with
  | 0 => throw .malformed
  | fuel + 1 =>
    if ← skipIf .entry then
      let ends := [.entry, .key, .value, .blockEnd]
      compactItems fuel levels ((← nodeUnless fuel levels false ends) :: items)
    else
      return items.reverse

/-- Reads the remaining entries of a mapping in lines of its own, with those before in reverse. -/
def blockEntries (fuel levels : Nat) (entries : List (Node × Node)) :
    Reading (List (Node × Node)) := do
  match fuel with
  | 0 => throw .malformed
  | fuel + 1 =>
    if ← skipIf .key then
      let ends := [.key, .value, .blockEnd]
      let key ← nodeUnless fuel levels true ends
      let value ← valueAfter fuel levels true ends
      blockEntries fuel levels ((key, value) :: entries)
    else if ← skipIf .blockEnd then
      return entries.reverse
    else
      throw .malformed

end

end Reading

end Catalogue.Yaml
