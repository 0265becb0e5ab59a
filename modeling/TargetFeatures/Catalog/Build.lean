import TargetFeatures.Catalog.Models

/-!
# Building a catalog from its description

`ModelCatalog.build` resolves the names of a description to ids, flattens the inheritance of
architectures, and stops at the first inconsistency. Alternate names are taken over as they are.
-/

namespace TargetFeatures.ModelCatalog

/-- The record of an extension. -/
def extensionOf (entry : ExtensionSpec) : Extension :=
  ⟨entry.name, entry.feature, entry.resolvedNegFeature, entry.fmvCode, entry.fmvImplies,
    entry.fmvPriority.val⟩

/-- The id of a name that one end of a dependency has. -/
def endpoint (names : List String) (dependency : DependencySpec) (name : String) :
    Except CatalogError Int :=
  if names.contains name then .ok (names.idxOf name)
  else .error (.unknownDependency dependency.earlier dependency.later name)

/-- The edges of a list of dependencies between named extensions. -/
def edgesOf (names : List String) : List DependencySpec → Except CatalogError (List (Int × Int))
  | [] => .ok []
  | dependency :: rest => do
    let earlier ← endpoint names dependency dependency.earlier
    let later ← endpoint names dependency dependency.later
    return (earlier, later) :: (← edgesOf names rest)

/-- Records with their positions as ids. -/
def numbered (extensions : List Extension) : List (Int × Extension) :=
  extensions.zipIdx.map fun (extension, position) => (position, extension)

/-- The extension catalog of a description. -/
def buildExtensions (spec : CatalogSpec) : Except CatalogError ExtensionCatalog :=
  let names := spec.extensions.map ExtensionSpec.name
  match firstRepeated? [] names with
  | some name => .error (.duplicateExtension name)
  | none => do
    let edges ← edgesOf names spec.dependencies
    ExtensionCatalog.ofRecords (numbered (spec.extensions.map extensionOf)) edges
      spec.extensionAliases ExtensionCatalog.defaultWidth

/-- The defaults that an architecture inherits from one of the architectures before it. -/
def inherited (built : List Architecture) (entry : ArchitectureSpec) :
    Except CatalogError Int :=
  match entry.base with
  | none => .ok 0
  | some base =>
    match built.find? (·.name == base) with
    | some architecture => .ok architecture.defaults
    | none => .error (.undeclaredBase entry.name base)

/-- The record of an architecture, given those before it. -/
def buildArchitecture (extensions : ExtensionCatalog) (built : List Architecture)
    (entry : ArchitectureSpec) : Except CatalogError Architecture := do
  if built.any (·.name == entry.name) then throw (.duplicateArchitecture entry.name)
  let start ← inherited built entry
  let added ← extensions.bitsetOfNames entry.add
  let removed ← extensions.bitsetOfNames entry.remove
  let defaults := Mask.difference (start.toNat ||| added) removed
  return ⟨entry.name, entry.major, entry.minor, entry.profile, entry.archFeature, defaults⟩

/-- The records of the architectures, in order, after those already built. -/
def buildArchitectures (extensions : ExtensionCatalog) (built : List Architecture) :
    List ArchitectureSpec → Except CatalogError (List Architecture)
  | [] => .ok built
  | entry :: rest => do
    let architecture ← buildArchitecture extensions built entry
    buildArchitectures extensions (built ++ [architecture]) rest

/-- The record of a processor. -/
def buildProcessor (extensions : ExtensionCatalog) (architectures : List Architecture)
    (entry : ProcessorSpec) : Except CatalogError Processor :=
  match architectures.find? (·.name == entry.arch) with
  | none => .error (.unknownArchitecture entry.name entry.arch)
  | some architecture => do
    return ⟨entry.name, architecture, ← extensions.bitsetOfNames entry.extensions⟩

/-- The records of the processors. -/
def buildProcessors (extensions : ExtensionCatalog) (architectures : List Architecture) :
    List ProcessorSpec → Except CatalogError (List Processor)
  | [] => .ok []
  | entry :: rest => do
    let processor ← buildProcessor extensions architectures entry
    return processor :: (← buildProcessors extensions architectures rest)

/-- The catalog of a description. -/
def build (spec : CatalogSpec) : Except CatalogError ModelCatalog := do
  let extensions ← buildExtensions spec
  let architectures ← buildArchitectures extensions [] spec.architectures
  let processors ← buildProcessors extensions architectures spec.processors
  ofParts extensions architectures processors spec.cpuAliases

end TargetFeatures.ModelCatalog
