import TargetFeatures.Yaml.Error
import TargetFeatures.Yaml.Node

/-!
# Merge keys

A mapping may hold an entry whose key says that the entries of its value are merged into the
mapping. Flattening puts them in front of the mapping's own entries, so that these replace them,
and of several mappings that are merged by one key the last comes first. A default key becomes a
text on the way. Both changes are made in the graph, so another place that refers to the same
nodes sees them from then on; a mapping that is merged into itself thereby comes to an end.
-/

namespace TargetFeatures.Yaml.NodeGraph

/-- Whether an entry says that its value is merged. -/
def isMerge (graph : NodeGraph) (entry : NodeId × NodeId) : Bool :=
  (graph.node entry.1).tag == .merge

/-- A graph where a mapping has lost its first merge key, if it has one. -/
def takeMerge? (graph : NodeGraph) (id : NodeId) : Option NodeGraph :=
  let entries := graph.entries id
  if entries.any graph.isMerge then some (graph.setEntries id (entries.eraseP graph.isMerge))
  else none

/-- A graph where a mapping has no merge keys and no default keys. The first argument bounds the
depth of the mappings that are merged; each of them takes away a merge key. -/
def flatten : Nat → NodeGraph → NodeId → Except Error NodeGraph
  | 0, _, _ => throw .malformed
  | depth + 1, graph, id => do
    let part (graph : NodeGraph) (id : NodeId) :
        Except Error (List (NodeId × NodeId) × NodeGraph) := do
      match graph.node id with
      | .mapping _ _ =>
        let graph ← flatten depth graph id
        return (graph.entries id, graph)
      | _ => throw .malformed
    let (merged, graph) ← (graph.entries id).foldlM
      (fun (merged, graph) (key, value) =>
        match (graph.node key).tag with
        | .merge =>
          match graph.takeMerge? id with
          | none => return (merged, graph)
          | some graph =>
            match graph.node value with
            | .sequence _ items => do
              let (parts, graph) ← items.foldlM
                (fun (parts, graph) item => do
                  let (entries, graph) ← part graph item
                  return (entries ++ parts, graph))
                ([], graph)
              return (merged ++ parts, graph)
            | _ => do
              let (entries, graph) ← part graph value
              return (merged ++ entries, graph)
        | .default => return (merged, graph.set key ((graph.node key).withTag .text))
        | _ => return (merged, graph))
      ([], graph)
    return if merged.isEmpty then graph else graph.setEntries id (merged ++ graph.entries id)

end TargetFeatures.Yaml.NodeGraph
