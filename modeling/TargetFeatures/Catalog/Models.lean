import TargetFeatures.Catalog.Architecture
import TargetFeatures.Catalog.Extensions

/-!
# Architectures and processors by name

A model catalog adds architectures and processors with distinct names to an extension catalog.
Every lookup gives the record or nothing. An architecture is also found by its feature flag
without the sign; of several with the same flag the last one counts.
-/

namespace TargetFeatures

/-- Extensions, architectures and processors. -/
structure ModelCatalog where
  extensions : ExtensionCatalog
  architectures : List Architecture
  processors : List Processor
  cpuAliases : AliasTable
  deriving DecidableEq, Inhabited

namespace ModelCatalog

/-- The first name that occurs again later in a list of names is reported where it recurs; `seen`
holds the names before. -/
def firstRepeated? (seen : List String) : List String → Option String
  | [] => none
  | name :: rest => if seen.contains name then some name else firstRepeated? (name :: seen) rest

/-- The catalog with the given parts, when their names are distinct. -/
def ofParts (extensions : ExtensionCatalog) (architectures : List Architecture)
    (processors : List Processor) (cpuAliases : AliasTable) : Except CatalogError ModelCatalog :=
  match firstRepeated? [] (architectures.map Architecture.name) with
  | some name => .error (.duplicateArchitecture name)
  | none =>
    match firstRepeated? [] (processors.map Processor.name) with
    | some name => .error (.duplicateProcessor name)
    | none => .ok ⟨extensions, architectures, processors, cpuAliases⟩

/-- The architecture with a name. -/
def parseArch? (catalog : ModelCatalog) (name : String) : Option Architecture :=
  catalog.architectures.find? (·.name == name)

/-- The architecture with a feature flag, given without its sign. -/
def findBySubArch? (catalog : ModelCatalog) (subArch : String) : Option Architecture :=
  catalog.architectures.reverse.find? (·.subArch == subArch)

/-- The processor with a name or an alternate name. An alternate name counts first. -/
def parseCpu? (catalog : ModelCatalog) (name : String) : Option Processor :=
  catalog.processors.find? (·.name == catalog.cpuAliases.resolve name)

/-- The architecture of the processor with a name or an alternate name. -/
def archForCpu? (catalog : ModelCatalog) (name : String) : Option Architecture :=
  (catalog.parseCpu? name).map Processor.architecture

/-- Every accepted name of a processor: the names first, then the alternate ones. -/
def cpuNames (catalog : ModelCatalog) : List String :=
  catalog.processors.map Processor.name ++ catalog.cpuAliases.alternates

end ModelCatalog

end TargetFeatures
