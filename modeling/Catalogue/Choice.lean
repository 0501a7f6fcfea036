import Catalogue.Setting

/-!
# Choices

Several values of the catalogue are chosen from a fixed list of names: sort orders, ways to combine
tags, the fields, operators and kinds of query words.  A choice is read from its name alone; a value
that is no such name is reported as it was given.
-/

namespace Catalogue

/-- What a value should have named. -/
inductive Choice where
  | tagLogic
  | sortOrder
  | searchField
  | booleanOperator
  | tokenKind
  deriving DecidableEq, Repr

/-- What messages call the things to choose from. -/
def Choice.name : Choice → String
  | .tagLogic => "TagLogic"
  | .sortOrder => "SortOrder"
  | .searchField => "SearchField"
  | .booleanOperator => "BooleanOperator"
  | .tokenKind => "TokenKind"

/-- A value that names nothing that could be chosen, as messages show it, if they can. -/
structure UnknownChoice where
  shown : Option String
  choice : Choice
  deriving DecidableEq, Repr

/-- The value and what it should have named; if the value cannot be shown, the reason for that. -/
def UnknownChoice.message (e : UnknownChoice) : String :=
  match e.shown with
  | some shown => shown ++ " is not a valid " ++ e.choice.name
  | none => Text.unwritableMessage

/-- The alternative that a text names. -/
def Choice.ofName {α : Type} (choice : Choice) (alternatives : List (String × α)) (name : String) :
    Except UnknownChoice α :=
  match alternatives.lookup name with
  | some a => .ok a
  | none => .error ⟨some (Text.quote name), choice⟩

/-- The alternative that a setting names; only a text names one. -/
def Choice.ofSetting {α : Type} (choice : Choice) (alternatives : List (String × α)) :
    Setting → Except UnknownChoice α
  | .scalar (.text name) => choice.ofName alternatives name
  | v => .error ⟨v.shown?, choice⟩

end Catalogue
