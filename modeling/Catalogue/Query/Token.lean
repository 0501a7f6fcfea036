import Catalogue.Choice

/-!
# Query tokens

A query is a list of tokens: words and quoted phrases to look for, each of them possibly limited to
one field or excluded, and the words that combine them.  A token can be written back as the text
that reads as it.
-/

namespace Catalogue

/-- What a token is. -/
inductive TokenKind where
  | term
  | phrase
  | operator
  deriving DecidableEq, Repr

/-- The fields that a token can be limited to. -/
inductive SearchField where
  | title
  | author
  | tag
  | publisher
  deriving DecidableEq, Repr

/-- The words that combine tokens. -/
inductive BooleanOperator where
  | and
  | or
  | not
  deriving DecidableEq, Repr

/-- The kinds of tokens by name. -/
def TokenKind.names : List (String × TokenKind) :=
  [("term", .term), ("phrase", .phrase), ("operator", .operator)]

/-- The name of a kind. -/
def TokenKind.name : TokenKind → String
  | .term => "term"
  | .phrase => "phrase"
  | .operator => "operator"

/-- The fields by name. -/
def SearchField.names : List (String × SearchField) :=
  [("title", .title), ("author", .author), ("tag", .tag), ("publisher", .publisher)]

/-- The name of a field. -/
def SearchField.name : SearchField → String
  | .title => "title"
  | .author => "author"
  | .tag => "tag"
  | .publisher => "publisher"

/-- The field with a name. -/
def SearchField.ofName (name : String) : Except UnknownChoice SearchField :=
  Choice.searchField.ofName names name

/-- The operators by name. -/
def BooleanOperator.names : List (String × BooleanOperator) :=
  [("AND", .and), ("OR", .or), ("NOT", .not)]

/-- The name of an operator. -/
def BooleanOperator.name : BooleanOperator → String
  | .and => "AND"
  | .or => "OR"
  | .not => "NOT"

/-- One unit of a query. -/
structure Token where
  kind : TokenKind
  value : String
  field : Option SearchField := none
  negated : Bool := false
  deriving DecidableEq, Repr

namespace Token

/-- Whether a token combines others. -/
def isOperator (t : Token) : Bool :=
  t.kind = .operator

/-- The operator that an operator token names; other tokens name none. -/
def operator? (t : Token) : Except UnknownChoice (Option BooleanOperator) :=
  if t.isOperator then
    (Choice.booleanOperator.ofName BooleanOperator.names t.value).map some
  else
    .ok none

/-- The text that reads as the token: a phrase in quotes, after its field and a colon, after a dash
when it is excluded. -/
def text (t : Token) : String :=
  if t.isOperator then
    t.value
  else
    let body := if t.kind = .phrase then "\"" ++ t.value ++ "\"" else t.value
    let limited :=
      match t.field with
      | some field => field.name ++ ":" ++ body
      | none => body
    if t.negated then "-" ++ limited else limited

end Token

/-- The values that a query looks for. -/
def searchValues (tokens : List Token) : List String :=
  (tokens.filter fun t => !t.isOperator).map (·.value)

/-- The text that reads as a list of tokens. -/
def queryText (tokens : List Token) : String :=
  Text.join " " (tokens.map (·.text))

end Catalogue
