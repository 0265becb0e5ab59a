import TargetFeatures.Catalog.Mask
import TargetFeatures.Spec.Basic

/-!
# Architectures and processors

The records of a built catalog, and the order between architectures. An architecture is a superset
of every lower version with the same major number and profile, and version 9 of a profile with
minor number `n` extends version 8 with minor number `n + 5`:

    v9.5a > v9.4a > v9.3a > v9.2a > v9.1a > v9a
      v       v       v       v       v      v
            v8.9a > v8.8a > v8.7a > v8.6a > v8.5a > v8.4a > ... > v8a

Architectures of different profiles are unrelated.
-/

namespace TargetFeatures

/-- A version of the architecture. -/
structure Architecture where
  name : String
  major : Int
  minor : Int
  profile : Profile
  archFeature : String
  /-- The extensions that are on by default. -/
  defaults : Int
  deriving DecidableEq, Repr, Inhabited

namespace Architecture

/-- The feature flag without its first character, which is a plus sign. -/
def subArch (architecture : Architecture) : String :=
  String.ofList (architecture.archFeature.toList.drop 1)

/-- How far the minor numbers of version 9 lag behind those of version 8. -/
def lag : Int := 5

/-- Whether one architecture is a strict superset of another. -/
def implies (left right : Architecture) : Bool :=
  if left.profile ≠ right.profile then false
  else if left.major = right.major then right.minor < left.minor
  else if left.major = 9 ∧ right.major = 8 then right.minor ≤ left.minor + lag
  else false

/-- Whether one architecture has the name of another or is a strict superset of it. -/
def isSuperset (left right : Architecture) : Bool :=
  left.name = right.name || left.implies right

end Architecture

/-- A processor model and the architecture that it implements. -/
structure Processor where
  name : String
  architecture : Architecture
  /-- The extensions that are on by default besides those of the architecture. -/
  defaults : Int
  deriving DecidableEq, Repr, Inhabited

namespace Processor

/-- The defaults of a processor together with those of its architecture. -/
def implied (processor : Processor) : Int :=
  Mask.union processor.defaults processor.architecture.defaults

end Processor

end TargetFeatures
