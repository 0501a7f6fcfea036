import Catalogue.Yaml.Node

/-!
# The nodes of a YAML document by name and place

A name stands for a node wherever it is used, and everything that happens to the node there happens
to it everywhere.  Two things can happen to a mapping.  Its merges can be carried out, one after the
other from the first one on: the merge leaves the mapping, the merges of what is merged are carried
out in the same way, and the entries that it has then go in front.  So a mapping that merges itself
takes what is left of it at that moment.  And the mark of a default value becomes a text once it has
been the key of a mapping.
-/

namespace Catalogue.Yaml

/-- What is known of the nodes of a document. -/
structure NamedNodes where
  /-- The nodes that have a name, the last one first. -/
  nodes : List (String × Node)
  /-- The number of all nodes and aliases. -/
  size : Nat
  /-- The places of the marks of default values that have been keys of mappings. -/
  keys : List Nat := []
  /-- The entries that mappings have by now, for those that have merged something. -/
  merged : List (Nat × List (Node × Node)) := []
  /-- The scalars that mappings with a default value were found to stand for. -/
  scalars : List (Nat × Scalar) := []

namespace Node

/-- The tag of a node; aliases have none of their own. -/
def tag : Node → Tag
  | .text _ tag _ => tag
  | .list _ tag _ => tag
  | .mapping _ tag _ => tag
  | .alias _ => .foreign

/-- The place of a node. -/
def place : Node → Nat
  | .text place _ _ => place
  | .list place _ _ => place
  | .mapping place _ _ => place
  | .alias _ => 0

/-- A node with another tag. -/
def withTag (tag : Tag) : Node → Node
  | .text place _ s => .text place tag s
  | .list place _ items => .list place tag items
  | .mapping place _ entries => .mapping place tag entries
  | .alias name => .alias name

/-- The mark of a default value as an ordinary key. -/
def asKey (node : Node) : Node :=
  if node.tag = .default then node.withTag .text else node

end Node

namespace NamedNodes

/-- The node that stands where another one may be named, as it is by now. -/
def resolve (named : NamedNodes) (node : Node) : Node :=
  let node :=
    match node with
    | .alias name => (named.nodes.lookup name).getD .absent
    | node => node
  let node :=
    match node with
    | .mapping place tag entries => .mapping place tag ((named.merged.lookup place).getD entries)
    | node => node
  if named.keys.contains node.place then node.asKey else node

/-- The entries that a node has by now, if it is a mapping. -/
def entries (named : NamedNodes) (node : Node) : List (Node × Node) :=
  match named.resolve node with
  | .mapping _ _ entries => entries
  | _ => []

/-- Gives other entries to the mapping at a place. -/
def withEntries (named : NamedNodes) (place : Nat) (entries : List (Node × Node)) : NamedNodes :=
  { named with merged := (place, entries) :: named.merged }

/-- More than the greatest number of steps from node to node, or of merges inside each other, that
do not come back to the same one. -/
def bound (named : NamedNodes) : Nat := 2 * named.size + 3

/-- What the first merge among the entries of a node merges, and the other entries. -/
def firstMerge? (named : NamedNodes) (node : Node) : Option (Node × List (Node × Node)) :=
  match (named.entries node).span fun entry => (named.resolve entry.1).tag ≠ .merge with
  | (_, []) => none
  | (before, (_, value) :: after) => some (value, before ++ after)

end NamedNodes

/-- A step in carrying out merges, which can only be those of mappings. -/
abbrev Merging := StateT NamedNodes Option

namespace Merging

mutual

/-- Carries out all merges of a node and tells what entries it has then.  Here and below every call
takes one unit of fuel. -/
def all (fuel : Nat) (node : Node) : Merging (List (Node × Node)) := do
  match fuel, (← get).resolve node with
  | fuel + 1, .mapping place _ _ => do
    let found ← merges fuel place node
    let entries := found ++ (← get).entries node
    unless found.isEmpty do
      modify (·.withEntries place entries)
    return entries
  | _, _ => failure

/-- Takes the merges off the entries of a mapping and tells what all of them bring.  A list of
mappings is merged from the last one on. -/
def merges (fuel : Nat) (place : Nat) (node : Node) : Merging (List (Node × Node)) := do
  match fuel, (← get).firstMerge? node with
  | _, none => return []
  | 0, _ => failure
  | fuel + 1, some (value, others) => do
    modify (·.withEntries place others)
    let found ←
      match (← get).resolve value with
      | .list _ _ items => do
        let found ← items.mapM (all fuel)
        pure found.reverse.flatten
      | value => all fuel value
    return found ++ (← merges fuel place node)

end

end Merging

namespace NamedNodes

/-- Carries out all merges of a mapping.  The marks of default values among its keys are texts then.
-/
def merge? (named : NamedNodes) (node : Node) : Option NamedNodes :=
  ((Merging.all named.bound node).run named).map fun (entries, named) =>
    let keys := entries.map fun (key, _) => named.resolve key
    { named with keys := (keys.filter (·.tag = .default)).map Node.place ++ named.keys }

end NamedNodes

end Catalogue.Yaml
