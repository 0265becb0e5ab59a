import TargetFeatures.Yaml.Tag

/-!
# Nodes

A node is a scalar, a sequence or a mapping together with its tag. A text describes a graph of
nodes rather than a tree: a node may be named, and an alias stands for the node of that name,
which may be one that the alias is a part of. A graph therefore keeps its nodes in the order in
which they start, and nodes refer to each other by their place in that order.
-/

namespace TargetFeatures.Yaml

/-- The place of a node in its graph. -/
abbrev NodeId := Nat

/-- A tagged node, its parts given by their places. -/
inductive Node where
  | scalar (tag : Tag) (text : String)
  | sequence (tag : Tag) (items : List NodeId)
  | mapping (tag : Tag) (entries : List (NodeId × NodeId))
  deriving DecidableEq, Repr

namespace Node

/-- The node that stands where a value is left out. -/
def empty : Node := .scalar .null ""

instance : Inhabited Node := ⟨empty⟩

/-- The tag of a node. -/
def tag : Node → Tag
  | .scalar tag _ => tag
  | .sequence tag _ => tag
  | .mapping tag _ => tag

/-- A node with another tag. -/
def withTag (tag : Tag) : Node → Node
  | .scalar _ text => .scalar tag text
  | .sequence _ items => .sequence tag items
  | .mapping _ entries => .mapping tag entries

end Node

/-- A graph of nodes. -/
structure NodeGraph where
  nodes : Array Node
  deriving Repr, Inhabited

namespace NodeGraph

/-- The graph without nodes. -/
def empty : NodeGraph := ⟨#[]⟩

/-- Number of nodes. -/
def size (graph : NodeGraph) : Nat := graph.nodes.size

/-- A graph with one more node, and the place of that node. -/
def add (graph : NodeGraph) (node : Node) : NodeId × NodeGraph :=
  (graph.size, ⟨graph.nodes.push node⟩)

/-- A graph with another node at a place. -/
def set (graph : NodeGraph) (id : NodeId) (node : Node) : NodeGraph :=
  ⟨graph.nodes.setIfInBounds id node⟩

/-- The node at a place; there is an empty one outside the graph. -/
def node (graph : NodeGraph) (id : NodeId) : Node := graph.nodes.getD id .empty

/-- The entries of the mapping at a place, none when another node is there. -/
def entries (graph : NodeGraph) (id : NodeId) : List (NodeId × NodeId) :=
  match graph.node id with
  | .mapping _ entries => entries
  | _ => []

/-- A graph where the mapping at a place has other entries. -/
def setEntries (graph : NodeGraph) (id : NodeId) (entries : List (NodeId × NodeId)) : NodeGraph :=
  match graph.node id with
  | .mapping tag _ => graph.set id (.mapping tag entries)
  | _ => graph

/-- Number of entries of all mappings. -/
def entryCount (graph : NodeGraph) : Nat :=
  graph.nodes.foldl (fun count node =>
    match node with
    | .mapping _ entries => count + entries.length
    | _ => count) 0

end NodeGraph

end TargetFeatures.Yaml
