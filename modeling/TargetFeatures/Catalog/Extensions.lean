import TargetFeatures.Catalog.AliasTable
import TargetFeatures.Catalog.Error
import TargetFeatures.Catalog.Mask
import TargetFeatures.Graph.TopologicalSort

/-!
# Extensions and their dependencies

An extension catalog lists extensions with distinct names; the id of an extension is its
position. Its edges lead from a prerequisite to the extension that requires it and have no cycle.
`ofRecords` builds a catalog of numbered records and says what is wrong when it cannot.

Extensions are looked up by id, by name, or by a name that may be an alternate one. Ids may also
be counted from the end: the last extension is number `-1`.
-/

namespace TargetFeatures

/-- An extension of a built catalog. -/
structure Extension where
  name : String
  feature : String
  negFeature : String
  fmvCode : Option Int
  fmvImplies : Option String
  fmvPriority : Int
  deriving DecidableEq, Repr, Inhabited

/-- Extensions by id, with dependencies and alternate names. -/
structure ExtensionCatalog where
  extensions : List Extension
  /-- Pairs of a prerequisite and the extension that requires it. -/
  edges : List (Nat × Nat)
  aliases : AliasTable
  /-- Number of ids that a set can hold. -/
  width : Int
  deriving DecidableEq, Inhabited

/-- An extension as a list of names and ids refers to it. -/
inductive ExtensionRef where
  | name (name : String)
  | id (id : Int)
  deriving DecidableEq, Repr

namespace ExtensionCatalog

/-- Number of ids in a set when nothing else is asked for. -/
def defaultWidth : Int := 62

/-! ## Building -/

/-- Checks that declared ids are positions and that names are distinct; `seen` holds the names
before the record with the given position. -/
def checkRecords (position : Nat) (seen : List String) :
    List (Int × Extension) → Except CatalogError Unit
  | [] => .ok ()
  | (id, extension) :: rest =>
    if id ≠ position then .error (.misplacedId extension.name id position)
    else if seen.contains extension.name then .error (.duplicateExtension extension.name)
    else checkRecords (position + 1) (extension.name :: seen) rest

/-- Whether a number is the id of one of `count` extensions. -/
def isId (count : Nat) (id : Int) : Bool := 0 ≤ id && id < count

/-- The edges as pairs of ids, when all their ends are ids. -/
def checkEdges (count : Nat) : List (Int × Int) → Except CatalogError (List (Nat × Nat))
  | [] => .ok []
  | (earlier, later) :: rest =>
    if !isId count earlier then .error (.unknownEndpoint earlier later earlier)
    else if !isId count later then .error (.unknownEndpoint earlier later later)
    else
      match checkEdges count rest with
      | .ok edges => .ok ((earlier.toNat, later.toNat) :: edges)
      | .error error => .error error

/-- Names of the extensions with the given ids. -/
def namesOf (extensions : List Extension) (ids : List Nat) : List String :=
  ids.filterMap fun id => (extensions[id]?).map Extension.name

/-- Checks that the edges have no cycle. -/
def checkAcyclic (extensions : List Extension) (edges : List (Nat × Nat)) :
    Except CatalogError Unit :=
  match Graph.sort (List.range extensions.length) edges with
  | .ok _ => .ok ()
  | .error (.cycle remaining) => .error (.cyclic (namesOf extensions remaining))
  | .error (.unknownNode node) => .error (.unknownId node)

/-- The catalog of numbered records and edges between their numbers. -/
def ofRecords (records : List (Int × Extension)) (edges : List (Int × Int)) (aliases : AliasTable)
    (width : Int) : Except CatalogError ExtensionCatalog :=
  let extensions := records.map Prod.snd
  if width < records.length then .error (.tooManyExtensions records.length width)
  else do
    checkRecords 0 [] records
    let edges ← checkEdges records.length edges
    checkAcyclic extensions edges
    return ⟨extensions, edges, aliases, width⟩

/-! ## Looking up -/

/-- Number of extensions. -/
def size (catalog : ExtensionCatalog) : Nat := catalog.extensions.length

/-- The extension with an id. -/
def get? (catalog : ExtensionCatalog) (id : Nat) : Option Extension := catalog.extensions[id]?

/-- The id that a number stands for: negative numbers count from the end. -/
def position? (catalog : ExtensionCatalog) (number : Int) : Option Nat :=
  if 0 ≤ number then if number < catalog.size then some number.toNat else none
  else if -(catalog.size : Int) ≤ number then some (number + catalog.size).toNat
  else none

/-- The id of the extension with a name. -/
def find? (catalog : ExtensionCatalog) (name : String) : Option Nat :=
  catalog.extensions.findIdx? (·.name == name)

/-- The id of the extension with a name or an alternate name. An alternate name counts first. -/
def parse? (catalog : ExtensionCatalog) (name : String) : Option Nat :=
  catalog.find? (catalog.aliases.resolve name)

/-- A list without the repetitions of its items, each in the place where it first occurs. -/
def distinct (ids : List Nat) : List Nat :=
  ids.foldl (fun known id => if known.contains id then known else known ++ [id]) []

/-- The ids that an extension directly requires, in the order of their edges. -/
def prerequisites (catalog : ExtensionCatalog) (id : Nat) : List Nat :=
  distinct ((catalog.edges.filter (·.2 == id)).map Prod.fst)

/-- The ids that directly require an extension, in the order of their edges. -/
def dependents (catalog : ExtensionCatalog) (id : Nat) : List Nat :=
  distinct ((catalog.edges.filter (·.1 == id)).map Prod.snd)

/-! ## Sets -/

/-- The id of a reference. -/
def resolve (catalog : ExtensionCatalog) : ExtensionRef → Except CatalogError Nat
  | .id id => if isId catalog.size id then .ok id.toNat else .error (.unknownId id)
  | .name name =>
    match catalog.find? name with
    | some id => .ok id
    | none => .error (.unknownExtension name)

/-- The ids of a list of references, up to the first one that fails. -/
def resolveAll (catalog : ExtensionCatalog) : List ExtensionRef → Except CatalogError (List Nat)
  | [] => .ok []
  | reference :: rest => do
    let id ← catalog.resolve reference
    return id :: (← catalog.resolveAll rest)

/-- The set of a list of references. -/
def bitset (catalog : ExtensionCatalog) (references : List ExtensionRef) :
    Except CatalogError Nat := do
  return Mask.ofIds (← catalog.resolveAll references)

/-- The set of a list of names. -/
def bitsetOfNames (catalog : ExtensionCatalog) (names : List String) : Except CatalogError Nat :=
  catalog.bitset (names.map .name)

/-- The extensions in a written set in the order of their ids; none when the set goes beyond the
catalog. -/
def members? (catalog : ExtensionCatalog) (mask : Int) : Option (List Extension) :=
  if Mask.isBelow catalog.size mask then
    some ((Mask.idsBelow catalog.size mask).filterMap catalog.get?)
  else none

/-- The names of the extensions in a set. -/
def names? (catalog : ExtensionCatalog) (mask : Int) : Option (List String) :=
  (catalog.members? mask).map (·.map Extension.name)

/-- The feature tokens of the extensions in a set. -/
def features? (catalog : ExtensionCatalog) (mask : Int) : Option (List String) :=
  (catalog.members? mask).map (·.map Extension.feature)

/-! ## Tokens -/

/-- The rest of a text after what it starts with. -/
def afterPrefix? (start text : List Char) : Option (List Char) :=
  match start, text with
  | [], text => some text
  | _ :: _, [] => none
  | expected :: start, character :: text =>
    if expected = character then afterPrefix? start text else none

/-- Whether a token is negated, and the name in it: a token that starts with the prefix is negated
and names what follows. -/
def splitToken (negation token : String) : Bool × String :=
  match afterPrefix? negation.toList token.toList with
  | some name => (true, String.ofList name)
  | none => (false, token)

/-- The feature token that turns an extension on or off, for its name or its negated name. -/
def featureFor? (catalog : ExtensionCatalog) (token negation : String) : Option String := do
  let (negated, name) := splitToken negation token
  let extension ← catalog.get? (← catalog.parse? name)
  return if negated then extension.negFeature else extension.feature

end ExtensionCatalog

end TargetFeatures
