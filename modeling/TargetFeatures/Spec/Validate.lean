import TargetFeatures.Graph.TopologicalSort
import TargetFeatures.Spec.Basic
import TargetFeatures.Spec.Finding

/-!
# Validating a catalog description

Building a catalog stops at the first inconsistency; validating a description collects all of
them, together with warnings, so that a whole file can be mended in one pass. Validation works on
names alone. A defect does not hide others: an edge with an unknown end is left out, an unknown
base or architecture has no defaults, and a repeated name takes the place of the earlier one.
-/

namespace TargetFeatures.CatalogSpec

/-- Names of architectures with the names of their default extensions, in the order in which the
architectures first occur. -/
abbrev DefaultTable := List (String × List String)

namespace DefaultTable

/-- The table in which a name has new defaults, in the place that it had before. -/
def insert (name : String) (defaults : List String) :
    List (String × List String) → List (String × List String)
  | [] => [(name, defaults)]
  | entry :: rest =>
    if entry.1 = name then (name, defaults) :: rest else entry :: insert name defaults rest

/-- The defaults under a name. -/
def get? (table : DefaultTable) (name : String) : Option (List String) := List.lookup name table

end DefaultTable

/-- Names that were declared before; `seen` holds them. -/
def duplicateExtensions (position : Nat) (seen : List String) : List String → List Finding
  | [] => []
  | name :: rest =>
    (if seen.contains name then [.duplicateExtension position name] else []) ++
      duplicateExtensions (position + 1) (name :: seen) rest

/-- Findings about the list of extensions. -/
def extensionFindings (width : Int) (names : List String) : List Finding :=
  duplicateExtensions 0 [] names ++
    if width < names.length then [.tooManyExtensions names.length width] else []

/-- Findings about single dependencies; `seen` holds the pairs before. -/
def dependencyFindings (names : List String) (position : Nat) (seen : List (String × String)) :
    List DependencySpec → List Finding
  | [] => []
  | dependency :: rest =>
    let ends := [dependency.earlier, dependency.later]
    let unknown := ends.filter fun name => !names.contains name
    if unknown.isEmpty then
      let pair := (dependency.earlier, dependency.later)
      (if seen.contains pair then
          [.duplicateDependency position dependency.earlier dependency.later]
        else []) ++ dependencyFindings names (position + 1) (pair :: seen) rest
    else
      unknown.map (.unknownInDependency position) ++
        dependencyFindings names (position + 1) seen rest

/-- The dependencies between declared extensions, as edges. -/
def knownEdges (names : List String) (dependencies : List DependencySpec) :
    List (String × String) :=
  (dependencies.filter fun dependency =>
      names.contains dependency.earlier && names.contains dependency.later).map fun dependency =>
    (dependency.earlier, dependency.later)

/-- The finding that the dependencies between declared extensions have a cycle. -/
def cycleFindings (names : List String) (dependencies : List DependencySpec) : List Finding :=
  match Graph.sort names.eraseDups (knownEdges names dependencies) with
  | .error (.cycle remaining) => [.cycle remaining]
  | _ => []

/-- The names of the default extensions of an architecture, given those before it. -/
def defaultsOf (table : DefaultTable) (architecture : ArchitectureSpec) : List String :=
  let inherited := (architecture.base.bind (DefaultTable.get? table)).getD []
  (inherited ++ architecture.add).filter fun name => !architecture.remove.contains name

/-- Findings about one architecture, given the defaults of those before it. -/
def architectureFindings (names : List String) (table : DefaultTable) (position : Nat)
    (architecture : ArchitectureSpec) : List Finding :=
  (if (DefaultTable.get? table architecture.name).isSome then
      [.duplicateArchitecture position architecture.name]
    else []) ++
    (match architecture.base with
    | none => []
    | some base =>
      if (DefaultTable.get? table base).isSome then []
      else [.undeclaredBase position architecture.name base]) ++
    ((architecture.add ++ architecture.remove).filter fun name => !names.contains name).map
      (.unknownInArchitecture position architecture.name)

/-- Findings about the architectures from a position on, and the defaults of all of them. -/
def checkArchitectures (names : List String) (position : Nat) (table : DefaultTable) :
    List ArchitectureSpec → List Finding × DefaultTable
  | [] => ([], table)
  | architecture :: rest =>
    let here := architectureFindings names table position architecture
    let (more, final) := checkArchitectures names (position + 1)
      (DefaultTable.insert architecture.name (defaultsOf table architecture) table) rest
    (here ++ more, final)

/-- The names of the default extensions of every architecture. -/
def architectureDefaults (spec : CatalogSpec) : DefaultTable :=
  (checkArchitectures (spec.extensions.map ExtensionSpec.name) 0 [] spec.architectures).2

/-- The finding about one extension that a processor lists, if there is one. -/
def listedFinding (names inherited : List String) (position : Nat) (processor : ProcessorSpec)
    (name : String) : Option Finding :=
  if !names.contains name then some (.unknownInProcessor position processor.name name)
  else if inherited.contains name then
    some (.redundantDefault position processor.name processor.arch name)
  else none

/-- Findings about the processors from a position on; `seen` holds the names before. -/
def processorFindings (names : List String) (table : DefaultTable) (position : Nat)
    (seen : List String) : List ProcessorSpec → List Finding
  | [] => []
  | processor :: rest =>
    let inherited := DefaultTable.get? table processor.arch
    (if seen.contains processor.name then [.duplicateProcessor position processor.name] else []) ++
      (if inherited.isSome then []
        else [.unknownArchitecture position processor.name processor.arch]) ++
      processor.extensions.filterMap
        (listedFinding names (inherited.getD []) position processor) ++
      processorFindings names table (position + 1) (processor.name :: seen) rest

/-- Findings about an alias table whose values should be among some names. -/
def aliasFindings (kind : AliasKind) (canonical : List String) (table : AliasTable) :
    List Finding :=
  table.entries.flatMap fun (alternate, name) =>
    (if canonical.contains name then [] else [.aliasTarget kind alternate name]) ++
      (if canonical.contains alternate then [.aliasShadowsName kind alternate] else [])

/-- The direct prerequisites of some names that are not among them, sorted. -/
def missingPrerequisites (dependencies : List DependencySpec) (defaults : List String) :
    List String :=
  let required := (dependencies.filter fun dependency =>
    defaults.contains dependency.later && !defaults.contains dependency.earlier).map
      DependencySpec.earlier
  required.eraseDups.mergeSort fun left right => decide (left ≤ right)

/-- The findings that the defaults of an architecture lack prerequisites. -/
def closureFindings (dependencies : List DependencySpec) (table : DefaultTable) : List Finding :=
  table.filterMap fun (architecture, defaults) =>
    let missing := missingPrerequisites dependencies defaults
    if missing.isEmpty then none else some (.unclosedDefaults architecture missing)

/-- The findings about names and references. -/
def referenceFindings (spec : CatalogSpec) (width : Int) : List Finding :=
  let names := spec.extensions.map ExtensionSpec.name
  let (architectures, table) := checkArchitectures names 0 [] spec.architectures
  extensionFindings width names ++
    dependencyFindings names 0 [] spec.dependencies ++
    cycleFindings names spec.dependencies ++
    architectures ++
    processorFindings names table 0 [] spec.processors ++
    aliasFindings .cpu (spec.processors.map ProcessorSpec.name) spec.cpuAliases ++
    aliasFindings .extension names spec.extensionAliases

/-- All findings about a description. Defaults that lack prerequisites are reported only when
nothing else is wrong. -/
def validate (spec : CatalogSpec) (width : Int) : List Finding :=
  let findings := spec.referenceFindings width
  if findings.any Finding.isError then findings
  else findings ++ closureFindings spec.dependencies spec.architectureDefaults

/-- Whether a list of findings has no error. -/
def isValid (findings : List Finding) : Bool := !findings.any Finding.isError

end TargetFeatures.CatalogSpec
