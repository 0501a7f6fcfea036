import Catalogue.Query.Scan
import Catalogue.Record

/-!
# Matching records

The word `OR` splits a query into groups; the other operators only separate tokens.  A record
matches a query when all tokens of one group match it.  A token looks for its value in the lower
case of its fields; an excluded token matches exactly the records that it would not match
otherwise.  The query without tokens matches every record, a query of operators alone none.
-/

namespace Catalogue

/-- Whether a lower-case value occurs in the lower case of a text. -/
def occursInLower (needle text : String) : Bool :=
  Text.occursIn needle (Text.lower text)

namespace Token

/-- Whether the value occurs in the fields that a token is limited to; without a field these are
title, authors, tags and publisher. -/
def occursInRecord (t : Token) (r : Record) : Bool :=
  let needle := Text.lower t.value
  match t.field with
  | some .title => occursInLower needle r.title || occursInLower needle r.titleSort
  | some .author => occursInLower needle r.authors || occursInLower needle r.authorSort
  | some .tag => r.tags.any (occursInLower needle)
  | some .publisher => occursInLower needle r.publisher
  | none =>
    occursInLower needle r.title || occursInLower needle r.authors ||
      r.tags.any (occursInLower needle) || occursInLower needle r.publisher

/-- Whether a single token matches a record. -/
def isMatch (t : Token) (r : Record) : Bool :=
  if t.negated then !t.occursInRecord r else t.occursInRecord r

end Token

namespace Query

/-- A group, unless it is empty. -/
def nonempty (group : List Token) : List (List Token) :=
  if group.isEmpty then [] else [group]

/-- The groups of tokens that follow those of an unfinished group. -/
def groupsAfter (current : List Token) : List Token → Except UnknownChoice (List (List Token))
  | [] => .ok (nonempty current)
  | t :: rest =>
    match t.operator? with
    | .error e => .error e
    | .ok (some .or) => (groupsAfter [] rest).map (nonempty current ++ ·)
    | .ok (some _) => groupsAfter current rest
    | .ok none => groupsAfter (current ++ [t]) rest

/-- The groups between the `OR` operators, empty ones left out. -/
def groups (tokens : List Token) : Except UnknownChoice (List (List Token)) :=
  groupsAfter [] tokens

/-- Whether all tokens of one group match a record. -/
def someGroupMatches (groups : List (List Token)) (r : Record) : Bool :=
  groups.any fun group => group.all (·.isMatch r)

/-- Whether a record matches a list of tokens. -/
def isMatch (tokens : List Token) (r : Record) : Except UnknownChoice Bool :=
  if tokens.isEmpty then
    .ok true
  else
    (groups tokens).map fun groups => someGroupMatches groups r

end Query

/-- A query that is ready to be applied to many records. -/
structure CompiledQuery where
  tokens : List Token
  groups : List (List Token)
  deriving DecidableEq, Repr

namespace CompiledQuery

/-- Reads a query and finds its groups. -/
def ofText (query : String) : Except UnknownChoice CompiledQuery :=
  match Query.parse query with
  | .error e => .error e
  | .ok tokens => (Query.groups tokens).map fun groups => ⟨tokens, groups⟩

/-- Whether the query has no tokens, so that it matches everything. -/
def isEmpty (q : CompiledQuery) : Bool :=
  q.tokens.isEmpty

/-- Whether a record matches the query. -/
def isMatch (q : CompiledQuery) (r : Record) : Bool :=
  q.isEmpty || Query.someGroupMatches q.groups r

/-- The records that match the query, in their order. -/
def filter (q : CompiledQuery) (records : List Record) : List Record :=
  records.filter q.isMatch

end CompiledQuery

end Catalogue
