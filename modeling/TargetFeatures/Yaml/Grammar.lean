import TargetFeatures.Yaml.Error
import TargetFeatures.Yaml.Node
import TargetFeatures.Yaml.Token

/-!
# From tokens to a graph of nodes

The grammar below reads one document from a list of tokens: each rule takes the tokens it needs
from the front and returns what is left. A collection takes its place in the graph, and its name,
before its parts are read, so that an alias among them can stand for it. A rule that looks at a
token where the lexer failed fails in the same way; one that is in error before it looks there is
in error on its own.
-/

namespace TargetFeatures.Yaml

/-- Greatest number of collections that are one inside the other. -/
def nestingLimit : Nat := 485

/-- The tokens that are left, the number of collections around them, the graph of the nodes before
them, the places of the named nodes, and the meaning of tag handles. -/
structure Source where
  tokens : List Token
  level : Nat
  graph : NodeGraph
  anchors : List (String × NodeId)
  handles : List (String × String)

namespace Source

/-- The same source with other tokens left. -/
def after (source : Source) (tokens : List Token) : Source := { source with tokens }

/-- The same source where the node at a place has a name. -/
def bind (source : Source) (anchor : Option String) (id : NodeId) : Source :=
  match anchor with
  | none => source
  | some name => { source with anchors := (name, id) :: source.anchors }

/-- The same source with one more node, and the place of that node. -/
def add (source : Source) (node : Node) : NodeId × Source :=
  let (id, graph) := source.graph.add node
  (id, { source with graph })

/-- The same source with another node at a place. -/
def set (source : Source) (id : NodeId) (node : Node) : Source :=
  { source with graph := source.graph.set id node }

/-- Reads a collection that is built from its parts, which are one level deeper. -/
def collection {Part : Type} (source : Source) (anchor : Option String) (build : List Part → Node)
    (parts : Source → Except Error (List Part × Source)) : Except Error (NodeId × Source) := do
  if source.level ≥ nestingLimit then throw .deepNesting
  let level := source.level
  let (id, source) := source.add (build [])
  let (found, source) ← parts { source.bind anchor id with level := level + 1 }
  return (id, { source.set id (build found) with level })

end Source

namespace Grammar

/-- Fails if the lexer failed at the next token. -/
def readable : List Token → Except Error Unit
  | .failure error :: _ => throw error
  | _ => return ()

/-- Fails at a token that no rule allows. -/
def unexpected {α : Type} (tokens : List Token) : Except Error α := do
  readable tokens
  throw .malformed

/-- What may stand before the content of a node. -/
structure Properties where
  anchor : Option String
  tag : Option (Option String × String)

/-- Whether a node has both properties. -/
def Properties.isComplete (properties : Properties) : Bool :=
  properties.anchor.isSome && properties.tag.isSome

/-- Whether a token ends the value of an entry of a block mapping before it starts. -/
def endsBlockValue : List Token → Bool
  | .key :: _ => true
  | .value :: _ => true
  | .blockEnd :: _ => true
  | _ => false

/-- Whether a token ends an item of a block sequence before it starts. -/
def endsBlockItem : List Token → Bool
  | .blockEntry :: _ => true
  | .blockEnd :: _ => true
  | _ => false

/-- Whether a token ends a value between brackets before it starts. -/
def endsFlowValue (closing : Token) : List Token → Bool
  | .flowEntry :: _ => true
  | token :: _ => token == closing
  | [] => false

/-- The properties before the content of a node, in either order, each at most once. -/
def properties : List Token → Properties × List Token
  | .anchor name :: .tag handle suffix :: rest => (⟨some name, some (handle, suffix)⟩, rest)
  | .tag handle suffix :: .anchor name :: rest => (⟨some name, some (handle, suffix)⟩, rest)
  | .anchor name :: rest => (⟨some name, none⟩, rest)
  | .tag handle suffix :: rest => (⟨none, some (handle, suffix)⟩, rest)
  | rest => (⟨none, none⟩, rest)

/-- The full name of a tag. -/
def tagName (handles : List (String × String)) :
    Option (Option String × String) → Except Error (Option String)
  | none => return none
  | some (none, suffix) => return some suffix
  | some (some handle, suffix) =>
    match handles.lookup handle with
    | some expansion => return some (expansion ++ suffix)
    | none => throw .malformed

/-- The tag of a collection with an optional name. -/
def collectionTag (usual : Tag) : Option String → Tag
  | none => usual
  | some "!" => usual
  | some name => Tag.ofName name

/-- The tag of a scalar with an optional name. -/
def scalarTag (text : String) (plain : Bool) : Option String → Tag
  | none => if plain then Tag.ofPlain text else .text
  | some "!" => Tag.ofPlain text
  | some name => Tag.ofName name

mutual

/-- A node. `block` says whether a block collection may start here, `indentless` whether a
sequence may whose dashes stand in the column of the key before it. The first argument bounds
the depth of the recursion, as in the rules that follow. -/
def node (block indentless : Bool) : Nat → Source → Except Error (NodeId × Source)
  | 0, _ => throw .malformed
  | depth + 1, source => do
    match source.tokens with
    | .alias name :: rest =>
      match source.anchors.lookup name with
      | some id => return (id, source.after rest)
      | none => throw .malformed
    | tokens =>
      let (properties, rest) := properties tokens
      if !properties.isComplete then readable rest
      let name ← tagName source.handles properties.tag
      readable rest
      if properties.anchor.any fun anchor => (source.anchors.lookup anchor).isSome then
        throw .malformed
      content block indentless properties.anchor name depth (source.after rest)

/-- The content of a node after its properties. -/
def content (block indentless : Bool) (anchor name : Option String) :
    Nat → Source → Except Error (NodeId × Source)
  | 0, _ => throw .malformed
  | depth + 1, source =>
    let sequence := source.collection anchor (Node.sequence (collectionTag .sequence name))
    let mapping := source.collection anchor (Node.mapping (collectionTag .mapping name))
    let scalar (text : String) (plain : Bool) (rest : List Token) :
        Except Error (NodeId × Source) :=
      let (id, source) := (source.after rest).add (.scalar (scalarTag text plain name) text)
      return (id, source.bind anchor id)
    match source.tokens with
    | .scalar text plain :: rest => scalar text plain rest
    | .flowSequenceStart :: rest => sequence fun source => flowItems true depth (source.after rest)
    | .flowMappingStart :: rest => mapping fun source => flowEntries true depth (source.after rest)
    | tokens =>
      match indentless, block, tokens with
      | true, _, .blockEntry :: _ => sequence fun source => indentlessItems depth source
      | _, true, .blockSequenceStart :: rest =>
        sequence fun source => blockItems depth (source.after rest)
      | _, true, .blockMappingStart :: rest =>
        mapping fun source => blockEntries depth (source.after rest)
      | _, _, _ =>
        if anchor.isSome || name.isSome then scalar "" true tokens else throw .malformed

/-- Items of a block sequence up to its end. -/
def blockItems : Nat → Source → Except Error (List NodeId × Source)
  | 0, _ => throw .malformed
  | depth + 1, source => do
    match source.tokens with
    | .blockEnd :: rest => return ([], source.after rest)
    | .blockEntry :: rest =>
      let (item, source) ←
        if endsBlockItem rest then pure ((source.after rest).add .empty)
        else node true false depth (source.after rest)
      let (items, source) ← blockItems depth source
      return (item :: items, source)
    | tokens => unexpected tokens

/-- Items of a sequence whose dashes stand in the column of the key before it. -/
def indentlessItems : Nat → Source → Except Error (List NodeId × Source)
  | 0, _ => throw .malformed
  | depth + 1, source => do
    match source.tokens with
    | .blockEntry :: rest =>
      let (item, source) ←
        if endsBlockItem rest || endsBlockValue rest then pure ((source.after rest).add .empty)
        else node true false depth (source.after rest)
      let (items, source) ← indentlessItems depth source
      return (item :: items, source)
    | tokens => do
      readable tokens
      return ([], source)

/-- Entries of a block mapping up to its end. -/
def blockEntries : Nat → Source → Except Error (List (NodeId × NodeId) × Source)
  | 0, _ => throw .malformed
  | depth + 1, source => do
    match source.tokens with
    | .blockEnd :: rest => return ([], source.after rest)
    | .key :: rest =>
      let (key, source) ←
        if endsBlockValue rest then pure ((source.after rest).add .empty)
        else node true true depth (source.after rest)
      let (value, source) ←
        match source.tokens with
        | .value :: rest =>
          if endsBlockValue rest then pure ((source.after rest).add .empty)
          else node true true depth (source.after rest)
        | tokens => do
          readable tokens
          pure (source.add .empty)
      let (entries, source) ← blockEntries depth source
      return ((key, value) :: entries, source)
    | tokens => unexpected tokens

/-- Items between brackets up to the closing one. -/
def flowItems (first : Bool) : Nat → Source → Except Error (List NodeId × Source)
  | 0, _ => throw .malformed
  | depth + 1, source => do
    match source.tokens with
    | .flowSequenceEnd :: rest => return ([], source.after rest)
    | tokens =>
      let rest ←
        match first, tokens with
        | true, tokens => pure tokens
        | false, .flowEntry :: rest => pure rest
        | false, tokens => unexpected tokens
      match rest with
      | .flowSequenceEnd :: rest => return ([], source.after rest)
      | .key :: rest =>
        let (entry, source) ← flowEntry .flowSequenceEnd depth (source.after rest)
        let (item, source) := source.add (.mapping .mapping [entry])
        let (items, source) ← flowItems false depth source
        return (item :: items, source)
      | rest =>
        let (item, source) ← node false false depth (source.after rest)
        let (items, source) ← flowItems false depth source
        return (item :: items, source)

/-- An entry between brackets after the token that announces its key. -/
def flowEntry (closing : Token) : Nat → Source → Except Error ((NodeId × NodeId) × Source)
  | 0, _ => throw .malformed
  | depth + 1, source => do
    let noKey := endsFlowValue closing source.tokens || source.tokens.head? == some .value
    let (key, source) ← if noKey then pure (source.add .empty) else node false false depth source
    match source.tokens with
    | .value :: rest =>
      let (value, source) ←
        if endsFlowValue closing rest then pure ((source.after rest).add .empty)
        else node false false depth (source.after rest)
      return ((key, value), source)
    | tokens =>
      readable tokens
      let (value, source) := source.add .empty
      return ((key, value), source)

/-- Entries between braces up to the closing one. -/
def flowEntries (first : Bool) : Nat → Source → Except Error (List (NodeId × NodeId) × Source)
  | 0, _ => throw .malformed
  | depth + 1, source => do
    match source.tokens with
    | .flowMappingEnd :: rest => return ([], source.after rest)
    | tokens =>
      let rest ←
        match first, tokens with
        | true, tokens => pure tokens
        | false, .flowEntry :: rest => pure rest
        | false, tokens => unexpected tokens
      match rest with
      | .flowMappingEnd :: rest => return ([], source.after rest)
      | .key :: rest =>
        let (entry, source) ← flowEntry .flowMappingEnd depth (source.after rest)
        let (entries, source) ← flowEntries false depth source
        return (entry :: entries, source)
      | rest =>
        let (key, source) ← node false false depth (source.after rest)
        let (value, source) := source.add .empty
        let (entries, source) ← flowEntries false depth source
        return ((key, value) :: entries, source)

end

/-- Handles that have a meaning without a directive. -/
def standardHandles : List (String × String) := [("!", "!"), ("!!", Tag.core)]

/-- The handles that the directives before a document define, and the tokens after them. A
version may be given once and must be one of the first. -/
def directives (versionSeen : Bool) (handles : List (String × String)) :
    List Token → Except Error (List (String × String) × List Token)
  | .directive (.version major _) :: rest =>
    if versionSeen || major != 1 then throw .malformed else directives true handles rest
  | .directive (.tagHandle handle expansion) :: rest =>
    if (handles.lookup handle).isSome then throw .malformed
    else directives versionSeen ((handle, expansion) :: handles) rest
  | .directive .reserved :: rest => directives versionSeen handles rest
  | rest => return (handles ++ standardHandles, rest)

/-- The content of a document after its opening line. -/
def documentContent (depth : Nat) (source : Source) : Except Error (NodeId × Source) :=
  match source.tokens with
  | [] => return source.add .empty
  | .directive _ :: _ => return source.add .empty
  | .documentStart :: _ => return source.add .empty
  | .documentEnd :: _ => return source.add .empty
  | _ => node true false depth source

/-- A document with its opening line, if it has one. -/
def document (tokens : List Token) : Except Error (NodeId × Source) := do
  let depth := 4 * tokens.length + 4
  let explicit := match tokens with
    | .directive _ :: _ => true
    | .documentStart :: _ => true
    | _ => false
  if explicit then
    let (handles, rest) ← directives false [] tokens
    match rest with
    | .documentStart :: rest => documentContent depth ⟨rest, 0, .empty, [], handles⟩
    | rest => unexpected rest
  else node true false depth ⟨tokens, 0, .empty, [], standardHandles⟩

/-- Checks that nothing follows a document but the lines that end it. -/
def ending : List Token → Except Error Unit
  | [] => return ()
  | .documentEnd :: rest => ending rest
  | tokens => do
    let (_, rest) ← directives false [] tokens
    unexpected rest

/-- The only document of a list of tokens: its graph and the place of its root, or nothing when
the list is empty. -/
def read? (tokens : List Token) : Except Error (Option (NodeId × NodeGraph)) := do
  if tokens.isEmpty then return none
  let (root, source) ← document tokens
  ending source.tokens
  return some (root, source.graph)

end Grammar

end TargetFeatures.Yaml
