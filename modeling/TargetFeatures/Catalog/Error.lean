import TargetFeatures.Data.Scalar

/-!
# Why a catalog cannot be built

Building stops at the first inconsistency of the data.
-/

namespace TargetFeatures

/-- An inconsistency of catalog data. -/
inductive CatalogError where
  | tooManyExtensions (count : Nat) (width : Int)
  | misplacedId (name : String) (id : Int) (expected : Nat)
  | duplicateExtension (name : String)
  | unknownEndpoint (earlier later endpoint : Int)
  | cyclic (names : List String)
  | unknownId (id : Int)
  | unknownExtension (name : String)
  | unknownDependency (earlier later name : String)
  | duplicateArchitecture (name : String)
  | undeclaredBase (name base : String)
  | unknownArchitecture (processor architecture : String)
  | duplicateProcessor (name : String)
  deriving DecidableEq, Repr

namespace CatalogError

/-- Message of an inconsistency. -/
def message : CatalogError → String
  | .tooManyExtensions count width =>
    Scalar.intText count ++ " extensions do not fit in a " ++ Scalar.intText width ++
      "-bit extension set"
  | .misplacedId name id expected =>
    "Extension ids must be dense and ordered: '" ++ name ++ "' has id " ++ Scalar.intText id ++
      ", expected " ++ Scalar.intText expected
  | .duplicateExtension name => "Duplicate extension name '" ++ name ++ "'"
  | .unknownEndpoint earlier later endpoint =>
    "Dependency edge " ++ Scalar.intText earlier ++ "->" ++ Scalar.intText later ++
      " references unknown extension id " ++ Scalar.intText endpoint
  | .cyclic names =>
    "Cyclic extension dependencies involving: [" ++ ", ".intercalate (names.map Text.quoted) ++ "]"
  | .unknownId id => "Unknown extension id " ++ Scalar.intText id
  | .unknownExtension name => "Unknown extension '" ++ name ++ "'"
  | .unknownDependency earlier later name =>
    "Dependency " ++ earlier ++ "->" ++ later ++ " references unknown extension '" ++ name ++ "'"
  | .duplicateArchitecture name => "Duplicate architecture '" ++ name ++ "'"
  | .undeclaredBase name base =>
    "Architecture '" ++ name ++ "' extends '" ++ base ++ "', which must be declared before it"
  | .unknownArchitecture processor architecture =>
    "Processor '" ++ processor ++ "' references unknown architecture '" ++ architecture ++ "'"
  | .duplicateProcessor name => "Duplicate processor '" ++ name ++ "'"

end CatalogError

end TargetFeatures
