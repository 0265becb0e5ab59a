import TargetFeatures.Yaml.Conversion
import TargetFeatures.Yaml.Merge

/-!
# What nodes stand for

The shape of a node is a scalar, or a collection whose parts are still nodes. Shapes are found
breadth first: a scalar is converted where it is met, a collection is announced there and looked
into only after all that were announced before it. Of several nodes that stand for nothing, the
first in this order is the one that is reported.
-/

namespace TargetFeatures.Yaml

/-- What a node stands for. -/
inductive Shape where
  | leaf (value : Scalar)
  | list (items : List NodeId)
  /-- A list of pairs. -/
  | pairs (entries : List (NodeId × NodeId))
  | map (entries : List (Scalar × NodeId))
  | set (members : List Scalar)
  deriving Repr, Inhabited

/-- A key of a mapping. A value that is not a number is a key of its own when a calculation gave
it at some node. -/
structure Key where
  value : Scalar
  origin : Option NodeId

namespace Key

/-- Whether two keys name the same entry. -/
def same (left right : Key) : Bool :=
  left.value.sameKey right.value && left.origin == right.origin

/-- Entries after one key was given a node: an existing key keeps its place. -/
def put (entries : List (Key × NodeId)) (key : Key) (id : NodeId) : List (Key × NodeId) :=
  match entries with
  | [] => [(key, id)]
  | (known, old) :: rest =>
    if known.same key then (known, id) :: rest else (known, old) :: put rest key id

end Key

/-- The text of a scalar whose tag asks for a single value. A mapping stands for the value of its
default key. The first argument bounds the number of such steps, which never end when a mapping
stands for itself. -/
def NodeGraph.scalarText (graph : NodeGraph) : Nat → NodeId → Except Error String
  | 0, _ => throw .endless
  | depth + 1, id =>
    match graph.node id with
    | .scalar _ text => return text
    | .mapping _ entries =>
      match entries.find? fun (key, _) => (graph.node key).tag == .default with
      | some (_, value) => graph.scalarText depth value
      | none => throw .malformed
    | .sequence _ _ => throw .malformed

/-- The graph, the shapes of the nodes that were met, and the collections that were announced and
not looked into, the last one first. -/
structure Shaping where
  graph : NodeGraph
  /-- Number of entries of all mappings before any was flattened. Flattening never adds a merge
  key, so this bounds its depth. -/
  entryCount : Nat
  shapes : Array (Option Shape)
  announced : List NodeId

namespace Shaping

/-- Nothing is known about a graph. -/
def start (graph : NodeGraph) : Shaping :=
  ⟨graph, graph.entryCount, Array.replicate graph.size none, []⟩

/-- The shape of a node that was met. -/
def shape? (shaping : Shaping) (id : NodeId) : Option Shape := shaping.shapes.getD id none

/-- Records the shape of a node. -/
def put (shaping : Shaping) (id : NodeId) (shape : Shape) : Shaping :=
  { shaping with shapes := shaping.shapes.setIfInBounds id (some shape) }

/-- Announces a collection, which is empty so far. -/
def announce (shaping : Shaping) (id : NodeId) (shape : Shape) : Shaping :=
  { shaping.put id shape with announced := id :: shaping.announced }

/-- The text of a node with the tag of a scalar. -/
def scalarText (shaping : Shaping) (id : NodeId) : Except Error String :=
  shaping.graph.scalarText (shaping.graph.size + 1) id

/-- The scalar that a node with a tag stands for. -/
def convert (shaping : Shaping) (tag : Tag) (id : NodeId) : Except Error Scalar := do
  if tag.isConvertible then
    let text ← shaping.scalarText id
    match tag, shaping.graph.node id with
    | .time, .mapping _ _ => throw .timeOfMapping
    | tag, _ => Conversion.scalar tag text
  else throw .malformed

/-- Meets a node. -/
def visit (shaping : Shaping) (id : NodeId) : Except Error Shaping := do
  if (shaping.shape? id).isSome then return shaping
  match (shaping.graph.node id).tag with
  | .sequence => return shaping.announce id (.list [])
  | .orderedMapping => return shaping.announce id (.pairs [])
  | .pairs => return shaping.announce id (.pairs [])
  | .mapping => return shaping.announce id (.map [])
  | .set => return shaping.announce id (.set [])
  | tag => return shaping.put id (.leaf (← shaping.convert tag id))

/-- The key that a node is; only scalars can be keys. -/
def key (shaping : Shaping) (id : NodeId) : Except Error Key :=
  match shaping.shape? id with
  | some (.leaf (.real .nan)) =>
    let shared := (shaping.scalarText id).toOption.any Conversion.isNanWord
    return ⟨.real .nan, if shared then none else some id⟩
  | some (.leaf value) => return ⟨value, none⟩
  | _ => throw .malformed

/-- Meets the keys and values of a mapping, which is flattened before. -/
def visitEntries (shaping : Shaping) (id : NodeId) :
    Except Error (List (Key × NodeId) × Shaping) := do
  let graph ← shaping.graph.flatten (shaping.entryCount + 2) id
  (graph.entries id).foldlM
    (fun (entries, shaping) (key, value) => do
      let shaping ← shaping.visit key
      let key ← shaping.key key
      let shaping ← shaping.visit value
      return (Key.put entries key value, shaping))
    ([], { shaping with graph })

/-- Meets the key and the value of a mapping with a single entry. -/
def visitPair (shaping : Shaping) (id : NodeId) : Except Error ((NodeId × NodeId) × Shaping) := do
  match shaping.graph.node id with
  | .mapping _ [(key, value)] =>
    let shaping ← shaping.visit key
    let shaping ← shaping.visit value
    return ((key, value), shaping)
  | _ => throw .malformed

/-- Meets the single entries of the mappings in a list. -/
def visitPairs (shaping : Shaping) : List NodeId → Except Error (List (NodeId × NodeId) × Shaping)
  | [] => return ([], shaping)
  | id :: rest => do
    let (pair, shaping) ← shaping.visitPair id
    let (pairs, shaping) ← shaping.visitPairs rest
    return (pair :: pairs, shaping)

/-- Looks into an announced collection. -/
def complete (shaping : Shaping) (id : NodeId) : Except Error Shaping := do
  match shaping.shape? id, shaping.graph.node id with
  | some (.list _), .sequence _ items =>
    let shaping ← items.foldlM visit shaping
    return shaping.put id (.list items)
  | some (.pairs _), .sequence _ items =>
    let (entries, shaping) ← shaping.visitPairs items
    return shaping.put id (.pairs entries)
  | some (.map _), .mapping _ _ =>
    let (entries, shaping) ← shaping.visitEntries id
    return shaping.put id (.map (entries.map fun (key, value) => (key.value, value)))
  | some (.set _), .mapping _ _ =>
    let (entries, shaping) ← shaping.visitEntries id
    return shaping.put id (.set (entries.map fun (key, _) => key.value))
  | _, _ => throw .malformed

/-- Looks into the announced collections, then into those that were announced meanwhile, and so
on. Every collection is announced once, so the number of nodes bounds the number of rounds, which
is what the first argument stands for. -/
def rounds : Nat → Shaping → Except Error Shaping
  | 0, shaping => return shaping
  | count + 1, shaping => do
    if shaping.announced.isEmpty then return shaping
    let shaping ← shaping.announced.reverse.foldlM complete { shaping with announced := [] }
    rounds count shaping

end Shaping

/-- The shapes of a node and of all the nodes that it is made of. -/
def NodeGraph.shapes (graph : NodeGraph) (root : NodeId) : Except Error (Array (Option Shape)) := do
  let shaping ← (Shaping.start graph).visit root
  let shaping ← shaping.rounds (graph.size + 1)
  return shaping.shapes

end TargetFeatures.Yaml
