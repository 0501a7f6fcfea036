import Catalogue.Json.Basic
import Catalogue.Moment
import Catalogue.Number.Decimal
import Catalogue.Setting.SlotTable
import Catalogue.Text.Digit
import Catalogue.Text.Quoted

/-!
# Settings

The values that a configuration holds: scalars, lists, lists of pairs, sets of scalars, and mappings
whose keys are scalars.  Keys that are equal as numbers, or are the same moment, are one key.  A
later mapping is laid over an earlier one key by key: two mappings under one key are laid over each
other, and any other value replaces the earlier one where it stands.
-/

namespace Catalogue

/-- A value without parts. -/
inductive Scalar where
  | null
  | bool (b : Bool)
  | int (n : Int)
  | float (x : Binary64)
  /-- A float that is no number and, as a key, differs from those written at another place. -/
  | placedFloat (place : Nat)
  | moment (m : Moment)
  | text (s : String)
  | bytes (b : List UInt8)
  deriving DecidableEq, Repr, Inhabited

/-- The value of a setting. -/
inductive Setting where
  | scalar (s : Scalar)
  | list (items : List Setting)
  | pairs (items : List (Setting × Setting))
  | mapping (entries : List (Scalar × Setting))
  | set (members : List Scalar)
  /-- A list or mapping inside of itself, which is not written out again. -/
  | again (isMapping : Bool)
  deriving Repr, Inhabited

/-- The entries of a mapping in order of first appearance. -/
abbrev Settings := List (Scalar × Setting)

/-- What decides whether two keys are the same. -/
inductive KeyForm where
  /-- What the key equals as a number, in quanta of doubles. -/
  | number (quanta : Int)
  /-- When the key is, in microseconds. -/
  | instant (microseconds : Int)
  | itself (key : Scalar)
  deriving DecidableEq, Repr

namespace Scalar

/-- A scalar as messages show it: texts are quoted.  Integers that are too long to be written cannot
be shown. -/
def shown? : Scalar → Option String
  | .null => some "None"
  | .bool true => some "True"
  | .bool false => some "False"
  | .int n => Text.integerText? n
  | .float x => some x.text
  | .placedFloat _ => some Binary64.notNumber.text
  | .moment m => some m.shown
  | .text s => some (Text.quote s)
  | .bytes b => some (Text.quoteBytes b)

/-- The number that a scalar equals, in quanta of doubles: truth values count as one and zero. -/
def quanta? : Scalar → Option Int
  | .bool b => some (if b then Binary64.unit else 0)
  | .int n => some (n * Binary64.unit)
  | .float x => x.quanta?
  | _ => none

/-- What decides whether a scalar is the same key as another one. -/
def keyForm (s : Scalar) : KeyForm :=
  match s.quanta?, s with
  | some n, _ => .number n
  | none, .moment m => (m.instant?.map .instant).getD (.itself s)
  | none, _ => .itself s

/-- Whether a scalar counts as given: not null, false, zero or empty. -/
def isGiven : Scalar → Bool
  | .null => false
  | .bool b => b
  | .int n => n != 0
  | .float x => x.quanta? != some 0
  | .placedFloat _ => true
  | .moment _ => true
  | .text s => s != ""
  | .bytes b => !b.isEmpty

/-- The prime by which the numbers of scalars are reduced. -/
def slotModulus : Nat := Nat.pow 2 61 - 1

/-- The number that finds the slot of a number in a set: its remainder by the prime, with its sign.
Halving is a rotation of 61 bits, so that the quanta of one are a rotation by 24 bits.  Minus one is
left free. -/
def slotNumber? (s : Scalar) : Option Int :=
  match s.quanta?, s with
  | some n, _ =>
    let rest : Int := n.natAbs * Nat.pow 2 24 % slotModulus
    if n < 0 then some (if rest = 1 then -2 else -rest) else some rest
  | none, .float .posInfinite => some 314159
  | none, .float .negInfinite => some (-314159)
  | none, _ => none

end Scalar

/-- The members of a set in the order in which they are shown.  Only numbers have places in a table;
sets of other members are shown in order of first appearance. -/
def Setting.shownMembers (members : List Scalar) : List Scalar :=
  match members.mapM fun s => s.slotNumber?.map fun n => (n, s) with
  | some numbered => SlotTable.arrange numbered
  | none => members

namespace Settings

/-- Whether an entry stands under a key. -/
def isUnder (key : Scalar) (entry : Scalar × Setting) : Bool :=
  entry.1.keyForm = key.keyForm

/-- The value under a key. -/
def get? (key : Scalar) (entries : Settings) : Option Setting :=
  (entries.find? (isUnder key)).map (·.2)

/-- Writes an entry: a new key goes to the end, a present one keeps its place and its form. -/
def put (key : Scalar) (value : Setting) : Settings → Settings
  | [] => [(key, value)]
  | entry :: rest =>
    if isUnder key entry then (entry.1, value) :: rest else entry :: put key value rest

end Settings

namespace Setting

/-- The setting that is a text. -/
def text (s : String) : Setting := .scalar (.text s)

/-- The setting that is nothing. -/
def null : Setting := .scalar .null

mutual

/-- A setting as messages show it.  There is no such text for a setting that holds an integer too
long to be written. -/
def shown? : Setting → Option String
  | .scalar s => s.shown?
  | .list items => (shownItems? items).map fun parts => "[" ++ Text.join ", " parts ++ "]"
  | .pairs items => (shownPairs? items).map fun parts => "[" ++ Text.join ", " parts ++ "]"
  | .mapping entries =>
    (shownEntries? entries).map fun parts => "\x7b" ++ Text.join ", " parts ++ "\x7d"
  | .set members =>
    if members.isEmpty then
      some "set()"
    else
      ((shownMembers members).mapM Scalar.shown?).map fun parts =>
        "\x7b" ++ Text.join ", " parts ++ "\x7d"
  | .again isMapping => some (if isMapping then "\x7b...\x7d" else "[...]")

/-- The items of a list as messages show them. -/
def shownItems? : List Setting → Option (List String)
  | [] => some []
  | item :: rest => do return (← shown? item) :: (← shownItems? rest)

/-- Pairs as messages show them. -/
def shownPairs? : List (Setting × Setting) → Option (List String)
  | [] => some []
  | (first, second) :: rest => do
    return ("(" ++ (← shown? first) ++ ", " ++ (← shown? second) ++ ")") :: (← shownPairs? rest)

/-- The entries of a mapping as messages show them. -/
def shownEntries? : List (Scalar × Setting) → Option (List String)
  | [] => some []
  | (key, value) :: rest => do
    return ((← key.shown?) ++ ": " ++ (← shown? value)) :: (← shownEntries? rest)

end

/-- A setting as text: a text stands for itself, a moment is written in the extended format, and
anything else is written as messages show it. -/
def asText? : Setting → Option String
  | .scalar (.text s) => some s
  | .scalar (.moment m) => some m.text
  | v => v.shown?

/-- Whether a setting counts as given: not null, false, zero or empty. -/
def isGiven : Setting → Bool
  | .scalar s => s.isGiven
  | .list items => !items.isEmpty
  | .pairs items => !items.isEmpty
  | .mapping entries => !entries.isEmpty
  | .set members => !members.isEmpty
  | .again _ => true

/-- The name of a setting's type in messages. -/
def typeName : Setting → String
  | .scalar .null => "NoneType"
  | .scalar (.bool _) => "bool"
  | .scalar (.int _) => "int"
  | .scalar (.float _) => "float"
  | .scalar (.placedFloat _) => "float"
  | .scalar (.moment m) => m.typeName
  | .scalar (.text _) => "str"
  | .scalar (.bytes _) => "bytes"
  | .list _ => "list"
  | .pairs _ => "list"
  | .mapping _ => "dict"
  | .set _ => "set"
  | .again isMapping => if isMapping then "dict" else "list"

mutual

/-- A value laid over the one that a lower layer has under the same key. -/
def above (lower : Option Setting) : Setting → Setting
  | .mapping entries =>
    match lower with
    | some (.mapping base) => .mapping (layer base entries)
    | _ => .mapping entries
  | v => v

/-- The entries of a mapping laid over those of a lower one, one after the other. -/
def layer (base : Settings) : List (Scalar × Setting) → Settings
  | [] => base
  | (key, value) :: rest => layer (base.put key (above (base.get? key) value)) rest

end

mutual

/-- The setting with the value of a JSON document. -/
def ofJson : Json → Setting
  | .null => .null
  | .bool b => .scalar (.bool b)
  | .int n => .scalar (.int n)
  | .float x => .scalar (.float x)
  | .str s => .text s
  | .arr items => .list (ofItems items)
  | .obj fields => .mapping (ofFields fields)

/-- The settings with the values of an array. -/
def ofItems : List Json → List Setting
  | [] => []
  | item :: rest => ofJson item :: ofItems rest

/-- The entries with the fields of an object. -/
def ofFields : List (String × Json) → List (Scalar × Setting)
  | [] => []
  | (name, value) :: rest => (.text name, ofJson value) :: ofFields rest

end

end Setting

/-- Mappings laid over each other, the last one on top. -/
def Settings.merge (layers : List Settings) : Settings :=
  layers.foldl Setting.layer []

end Catalogue
