import Catalogue.Yaml.NamedNodes

/-!
# The value of a YAML document

The nodes of a document stand for settings.  A text stands for a scalar of the kind that its tag
says, and so does a mapping with a default value; lists and mappings stand for values with parts, in
which a mapping can merge the entries of others, and keys are scalars.  Every node is checked once,
the outer ones before the inner ones, level by level, and the first fault counts.
-/

namespace Catalogue.Yaml

namespace Node

/-- The text of a node that should be a scalar.  That of a mapping is the text of its default value.
Every default value takes one unit of fuel. -/
def content (named : NamedNodes) (fuel : Nat) (node : Node) : Except Fault String :=
  match named.resolve node, fuel with
  | .text _ _ s, _ => .ok s
  | .mapping _ _ _, 0 => .error .tooDeep
  | .mapping _ _ entries, fuel + 1 =>
    match entries.find? fun entry => (named.resolve entry.1).tag = .default with
    | some (_, value) => value.content named fuel
    | none => .error .malformed
  | _, _ => .error .malformed

/-- The scalar that a node stands for as it is by now. -/
def scalarByNow (named : NamedNodes) (node : Node) : Except Fault Scalar := do
  let node := named.resolve node
  let text ← if node.tag.isScalar then node.content named named.bound else throw .malformed
  match node with
  | .text _ _ _ => scalarValue node.tag node.place text
  | _ => if node.tag = .moment then throw .momentInMapping else scalarValue node.tag node.place text

/-- The scalar that a node stands for.  For a mapping it stays the one that was found first. -/
def scalar (named : NamedNodes) (node : Node) : Except Fault Scalar :=
  match named.resolve node with
  | .mapping place _ _ =>
    match named.scalars.lookup place with
    | some s => .ok s
    | none => node.scalarByNow named
  | _ => node.scalarByNow named

/-- The pair that a mapping of one entry stands for. -/
def pair? (named : NamedNodes) (node : Node) : Option (Node × Node) :=
  match named.entries node with
  | [entry] => some entry
  | _ => none

/-- The nodes right inside of a node, keys of mappings apart. -/
def inner (named : NamedNodes) (node : Node) : List Node :=
  let node := named.resolve node
  match node.tag, node with
  | .list, .list _ _ items => items
  | .pairs, .list _ _ items => (items.filterMap (pair? named)).flatMap fun (a, b) => [a, b]
  | .mapping, _ | .set, _ => (named.entries node).map (·.2)
  | _, _ => []

/-- Those of some nodes that have parts and have not been met before, and the places that have been
met after them. -/
def fresh (named : NamedNodes) (met : List Nat) : List Node → List Node × List Nat
  | [] => ([], met)
  | node :: rest =>
    let node := named.resolve node
    if !node.tag.isCollection || met.contains node.place then
      fresh named met rest
    else
      let (found, met) := fresh named (node.place :: met) rest
      (node :: found, met)

end Node

/-- A step in checking nodes. -/
abbrev Checking := StateT NamedNodes (Except Fault)

namespace Checking

/-- Finds the scalar that a node stands for. -/
def scalar (node : Node) : Checking Unit := do
  let named ← get
  let found ← node.scalar named
  match named.resolve node with
  | .mapping place _ _ => set { named with scalars := (place, found) :: named.scalars }
  | _ => return

/-- Checks a node itself, without what is inside of it. -/
def own (node : Node) : Checking Unit := do
  unless ((← get).resolve node).tag.isCollection do
    scalar node

/-- Checks a node as a key, which has to be a scalar. -/
def key (node : Node) : Checking Unit := do
  if ((← get).resolve node).tag.isCollection then throw .malformed else scalar node

/-- Checks what is right inside of a node, which may be nothing that the node should have inside. -/
def inside (node : Node) : Checking Unit := do
  let node := (← get).resolve node
  match node.tag, node with
  | .list, .list _ _ items => items.forM own
  | .pairs, .list _ _ items =>
    items.forM fun item => do
      match item.pair? (← get) with
      | some (first, second) =>
        own first
        own second
      | none => throw .malformed
  | .mapping, _ | .set, _ =>
    match (← get).merge? node with
    | some named =>
      set named
      (named.entries node).forM fun (name, value) => do
        key name
        own value
    | none => throw .malformed
  | _, _ => if node.tag.isCollection then throw .malformed

/-- Checks what is inside of some nodes, level by level.  No node is looked at twice.  Every level
takes one unit of fuel. -/
def levels (fuel : Nat) (met : List Nat) (nodes : List Node) : Checking Unit := do
  match fuel, Node.fresh (← get) met nodes with
  | _, ([], _) => return
  | 0, _ => throw .tooDeep
  | fuel + 1, (nodes, met) => do
    nodes.forM inside
    let named ← get
    levels fuel met (nodes.flatMap (Node.inner named))

/-- Checks a node with everything inside of it. -/
def all (node : Node) : Checking Unit := do
  own node
  levels (← get).bound [] [node]

end Checking

/-- The settings that named nodes stand for, as far as they are known. -/
abbrev KnownSettings := List (String × Setting)

namespace Node

/-- The setting that an alias stands for, if it is known. -/
def known? (known : KnownSettings) : Node → Option Setting
  | .alias name => known.lookup name
  | _ => none

/-- The entries that some keys and settings make up, one written after the other. -/
def keyed (named : NamedNodes) (entries : List (Node × Setting)) : Settings :=
  entries.foldl (fun before (key, value) =>
    before.put ((key.scalar named).toOption.getD .null) value) []

/-- The setting that a node without faults stands for, where `around` are the places of the lists
and mappings around it.  Every level takes one unit of fuel. -/
def setting (named : NamedNodes) (known : KnownSettings) (fuel : Nat) (around : List Nat)
    (node : Node) : Setting :=
  match node.known? known, fuel with
  | some v, _ => v
  | none, 0 => .null
  | none, fuel + 1 =>
    let node := named.resolve node
    let within := setting named known fuel (node.place :: around)
    if !node.tag.isCollection then
      ((node.scalar named).toOption.map .scalar).getD .null
    else if around.contains node.place then
      .again (node.tag = .mapping)
    else
      match node.tag, node with
      | .list, .list _ _ items => .list (items.map within)
      | .pairs, .list _ _ items =>
        .pairs ((items.filterMap (pair? named)).map fun (a, b) => (within a, within b))
      | .set, _ =>
        let keys := (named.entries node).map fun (key, _) => (key, Setting.null)
        .set ((keyed named keys).map (·.1))
      | _, _ =>
        .mapping (keyed named ((named.entries node).map fun (key, value) => (key, within value)))

mutual

/-- The names that stand for other nodes inside of a node. -/
def aliases : Node → List String
  | .text _ _ _ => []
  | .list _ _ items => aliasesOfItems items
  | .mapping _ _ entries => aliasesOfEntries entries
  | .alias name => [name]

/-- The names that stand for other nodes inside of the items of a list. -/
def aliasesOfItems : List Node → List String
  | [] => []
  | item :: rest => aliases item ++ aliasesOfItems rest

/-- The names that stand for other nodes inside of the entries of a mapping. -/
def aliasesOfEntries : List (Node × Node) → List String
  | [] => []
  | (key, value) :: rest => aliases key ++ aliases value ++ aliasesOfEntries rest

end

end Node

namespace NamedNodes

/-- Adds the setting of a named node, if nothing in it is unknown. -/
def learn (named : NamedNodes) (known : KnownSettings) (entry : String × Node) : KnownSettings :=
  if entry.2.aliases.all fun name => (known.lookup name).isSome then
    (entry.1, entry.2.setting named known named.bound []) :: known
  else
    known

/-- The settings of the named nodes that do not stand inside of themselves, each made once. -/
def known (named : NamedNodes) : KnownSettings :=
  named.nodes.reverse.foldl (learn named) []

end NamedNodes

/-- The setting that a document stands for.  The values of its own entries are each written out from
the outside, also where the document is inside of itself. -/
def Node.toSetting (node : Node) (named : NamedNodes) : Except Fault Setting := do
  let ((), named) ← (Checking.all node).run named
  let setting := Node.setting named named.known named.bound []
  if node.tag = .mapping then
    let entries := (named.entries node).map fun (key, value) => (key, setting value)
    return .mapping (keyed named entries)
  else
    return setting node

end Catalogue.Yaml
