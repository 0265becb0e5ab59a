import TargetFeatures.Catalog.AliasTable

/-!
# Catalogs as they are described

A catalog file describes extensions, dependencies between them, architectures, processors and
alternate names. Everything refers to extensions and architectures by name. The order of the
entries matters: the position of an extension becomes its identity, and an architecture may
extend only an architecture before it.
-/

namespace TargetFeatures

/-- Greatest priority of a function version. -/
def maxPriority : Nat := 1000

/-- The priority of an extension that gives none. -/
def leastPriority : Fin (maxPriority + 1) := ⟨0, by decide⟩

/-- Profile of an architecture: for applications or for real time. -/
inductive Profile where
  | application
  | realTime
  deriving DecidableEq, Repr, Inhabited

namespace Profile

/-- The letter of a profile. -/
def letter : Profile → String
  | .application => "A"
  | .realTime => "R"

/-- The profile with a letter. -/
def ofLetter? (letter : String) : Option Profile :=
  if letter = "A" then some .application
  else if letter = "R" then some .realTime
  else none

theorem ofLetter?_letter (profile : Profile) : ofLetter? profile.letter = some profile := by
  cases profile <;> decide

end Profile

/-- An extension: a switch of the target with a token that turns it on. -/
structure ExtensionSpec where
  name : String
  feature : String
  /-- Token that turns the extension off; derived from `feature` when absent or empty. -/
  negFeature : Option String
  fmvCode : Option Int
  /-- Features that a function version for this extension turns on. -/
  fmvImplies : Option String
  fmvPriority : Fin (maxPriority + 1)
  deriving DecidableEq, Repr, Inhabited

namespace ExtensionSpec

/-- Token that turns an extension off: the declared one, else a minus sign before the feature
without its leading plus signs. -/
def resolvedNegFeature (extension : ExtensionSpec) : String :=
  match extension.negFeature with
  | none => derived
  | some declared => if declared = "" then derived else declared
where
  derived : String := "-" ++ String.ofList (extension.feature.toList.dropWhile (· == '+'))

end ExtensionSpec

/-- A dependency: enabling `later` requires `earlier`. -/
structure DependencySpec where
  earlier : String
  later : String
  deriving DecidableEq, Repr, Inhabited

/-- An architecture. Its default extensions are those of `base`, with `add` and without
`remove`. -/
structure ArchitectureSpec where
  name : String
  major : Int
  minor : Int
  profile : Profile
  archFeature : String
  base : Option String
  add : List String
  remove : List String
  deriving DecidableEq, Repr, Inhabited

/-- A processor with its architecture and the extensions it adds to the defaults. -/
structure ProcessorSpec where
  name : String
  arch : String
  extensions : List String
  deriving DecidableEq, Repr, Inhabited

/-- A whole catalog as it is described. -/
structure CatalogSpec where
  extensions : List ExtensionSpec
  dependencies : List DependencySpec
  architectures : List ArchitectureSpec
  processors : List ProcessorSpec
  cpuAliases : AliasTable
  extensionAliases : AliasTable
  deriving DecidableEq, Inhabited

namespace CatalogSpec

/-- One line that counts the entries of a catalog. -/
def summary (spec : CatalogSpec) : String :=
  let count (number : Nat) : String := String.ofList (Nat.toDigits 10 number)
  count spec.extensions.length ++ " extensions, " ++ count spec.dependencies.length ++
    " dependencies, " ++ count spec.architectures.length ++ " architectures, " ++
    count spec.processors.length ++ " processors"

end CatalogSpec

end TargetFeatures
