import Catalogue.Yaml.TokenRun
import Catalogue.Yaml.Value

/-!
# YAML documents

Configurations are written in YAML 1.1, one document in a file: lists and mappings in brackets or in
lines of their own, texts, anchors and tags.  A document without content is null.  How many lists
and mappings may stand inside each other depends on the stack that is left where reading begins, so
it is given with the document.
-/

namespace Catalogue.Yaml

/-- What reading depends on besides the document. -/
structure Decoder where
  /-- The number of lists and mappings that may stand inside each other. -/
  maxDepth : Nat
  /-- What is said about bytes that are no YAML, in a file of the given path. -/
  complaint : String → List UInt8 → String

/-- What the directives before a document say about handles.  There is at most one of the version,
which has to be the first one, and at most one of each handle. -/
def handlesOf? (directives : List Directive) : Option Handles := do
  let versions := directives.filterMap fun d =>
    match d with
    | .version major => some major
    | _ => none
  let handles := directives.filterMap fun d =>
    match d with
    | .handle name meaning => some (name, meaning)
    | _ => none
  let isFitting := versions.all (· = 1) && versions.length ≤ 1 && (handles.map (·.1)).Nodup
  if isFitting then some (handles ++ defaultHandles) else none

namespace Reading

/-- Passes the tokens that have a property.  Every one takes one unit of fuel. -/
def skipWhile (fuel : Nat) (p : Token → Bool) : Reading (List Token) := do
  match fuel with
  | 0 => return []
  | fuel + 1 =>
    let token ← peek
    if p token then
      skip
      return token :: (← skipWhile fuel p)
    else
      return []

/-- The number of tokens that remain. -/
def remaining : Reading Nat := return (← get).tokens.length

/-- Enough for any tokens: between two calls that take a token each there are at most three that
take none. -/
def fuel : Reading Nat := return 4 * (← remaining) + 4

/-- Reads the content of a document, which is null if there is none before certain tokens. -/
def content (maxDepth : Nat) (isEnd : Token → Bool) : Reading Node := do
  if isEnd (← peek) then return .absent else node (← fuel) maxDepth false

/-- Whether a token is a directive. -/
def isDirective : Token → Bool
  | .directive _ => true
  | _ => false

/-- Reads the directives before a document, with the mark of its start. -/
def directives : Reading Unit := do
  let found ← skipWhile (← remaining) isDirective
  let said := found.filterMap fun token =>
    match token with
    | .directive d => some d
    | _ => none
  match handlesOf? said with
  | none => throw .malformed
  | some handles =>
    modify fun p => { p with handles }
    if !(← skipIf .documentStart) then
      throw .malformed

/-- Whether a document with a mark of its start has no content. -/
def isBoundary (token : Token) : Bool :=
  isDirective token || [.documentStart, .documentEnd, .finish].contains token

/-- Reads a document and makes sure that no other one follows. -/
def document (maxDepth : Nat) : Reading Node := do
  let first ← peek
  if first = .finish then
    return .absent
  else
    let node ←
      if isDirective first || first = .documentStart then do
        directives
        content maxDepth isBoundary
      else
        content maxDepth fun _ => false
    let _ ← skipWhile (← remaining) (· = .documentEnd)
    let more ← skipWhile (← remaining) isDirective
    let last ← peek
    if more = [] ∧ last = .finish then
      return node
    else
      throw .malformed

end Reading

/-- The setting that the bytes of a document write, in which so many lists and mappings may stand
inside each other. -/
def read (maxDepth : Nat) (bytes : List UInt8) : Except Fault Setting := do
  let (node, found) ← (Reading.document maxDepth).run { tokens := Token.read (.ofBytes bytes) }
  node.toSetting { nodes := found.named, size := found.size }

end Catalogue.Yaml
