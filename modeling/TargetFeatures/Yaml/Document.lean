import TargetFeatures.Text.Lines
import TargetFeatures.Yaml.Grammar
import TargetFeatures.Yaml.Shape
import TargetFeatures.Yaml.Token.Lexer

/-!
# The document of a markup text

`Yaml.read` makes a document of a text: the text becomes tokens, the tokens become a graph of
nodes, and the graph is unfolded from its root. A collection that holds itself would unfold
without end. The document, its fields and the items in them are always unfolded; below them a
collection that is already being unfolded is only marked.
-/

namespace TargetFeatures.Yaml

/-- Number of the outermost levels that are always unfolded. -/
def freeLevels : Nat := 2

/-- The documents of the nodes that were unfolded without meeting a mark; these are the same at
every place. -/
abbrev Unfolding := StateM (Array (Option Value))

/-- Whether a shape is that of a mapping. -/
def Shape.isMapping : Option Shape → Bool
  | some (.map _) => true
  | _ => false

/-- The document of a node at a level below some other nodes, and whether it has a mark in it.
The first argument bounds the depth. -/
def unfold (shapes : Array (Option Shape)) :
    Nat → Nat → List NodeId → NodeId → Unfolding (Value × Bool)
  | 0, _, _, _ => return (.null, false)
  | depth + 1, level, above, id => do
    let shape? := shapes.getD id none
    if above.contains id then return (.recurrence (Shape.isMapping shape?), true)
    match (← get).getD id none with
    | some value => return (value, false)
    | none =>
      let above := if level < freeLevels then above else id :: above
      let part := unfold shapes depth (level + 1) above
      let (value, marked) ← match shape? with
        | none => pure (Value.null, false)
        | some (.leaf value) => pure (.scalar value, false)
        | some (.set members) => pure (.set members, false)
        | some (.list items) => do
          let parts ← items.mapM part
          pure (.list (parts.map Prod.fst), parts.any Prod.snd)
        | some (.map entries) => do
          let parts ← entries.mapM fun (_, value) => part value
          pure (.map ((entries.map Prod.fst).zip (parts.map Prod.fst)), parts.any Prod.snd)
        | some (.pairs entries) => do
          let parts ← entries.mapM fun (key, value) => do
            let (key, keyMarked) ← part key
            let (value, valueMarked) ← part value
            pure (Value.tuple [key, value], keyMarked || valueMarked)
          pure (.list (parts.map Prod.fst), parts.any Prod.snd)
      if !marked then modify (·.setIfInBounds id (some value))
      return (value, marked)

/-- The document of a node. Below the free levels no node is unfolded inside itself, so the
number of nodes bounds the depth. -/
def documentOf (shapes : Array (Option Shape)) (root : NodeId) : Value :=
  let found := unfold shapes (shapes.size + freeLevels + 1) 0 [] root
  (found.run (Array.replicate shapes.size none)).run.1.1

/-- The document of a markup text. The text is taken as it is read from a file, with unified line
ends; an empty text is null. -/
def read (text : String) : Except Error Value := do
  let tokens ← tokens (Text.unifyLineEndings text.toList)
  match ← Grammar.read? tokens with
  | none => return .null
  | some (root, graph) => return documentOf (← graph.shapes root) root

end TargetFeatures.Yaml
