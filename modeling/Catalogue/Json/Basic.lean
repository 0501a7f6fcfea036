import Catalogue.Number.Binary64

/-!
# JSON values

The values of a JSON document.  The fields of an object keep the order in which their names first
appear, and no name appears twice: writing a field again replaces its value where it stands.
Integers are exact and are told apart from numbers with a fraction or an exponent.
-/

namespace Catalogue

/-- A JSON value. -/
inductive Json where
  | null
  | bool (b : Bool)
  | int (n : Int)
  | float (x : Binary64)
  | str (s : String)
  | arr (items : List Json)
  | obj (fields : List (String × Json))
  deriving Repr, Inhabited

/-- The fields of an object in document order. -/
abbrev Fields := List (String × Json)

/-- Writes a field: a new name goes to the end, a present one keeps its place. -/
def Fields.insert (name : String) (value : Json) : Fields → Fields
  | [] => [(name, value)]
  | field :: rest =>
    if field.1 = name then (name, value) :: rest else field :: Fields.insert name value rest

/-- The value of a field. -/
def Fields.get? (name : String) (fields : Fields) : Option Json :=
  fields.lookup name

namespace Json

/-- Whether a value is null. -/
def isNull : Json → Bool
  | .null => true
  | _ => false

/-- The kinds of values that messages about a document name. -/
inductive Kind where
  | int
  | str
  | array
  | object
  | float
  | bool
  | null
  deriving DecidableEq, Repr

/-- The name of a kind in messages. -/
def Kind.name : Kind → String
  | .int => "int"
  | .str => "str"
  | .array => "array"
  | .object => "object"
  | .float => "float"
  | .bool => "bool"
  | .null => "null"

/-- The kind of a value. -/
def kind : Json → Kind
  | .null => .null
  | .bool _ => .bool
  | .int _ => .int
  | .float _ => .float
  | .str _ => .str
  | .arr _ => .array
  | .obj _ => .object

end Json

end Catalogue
