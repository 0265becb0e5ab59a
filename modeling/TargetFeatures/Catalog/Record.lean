import TargetFeatures.Catalog.Models
import TargetFeatures.Spec.Decode

/-!
# Records from documents, and documents of records

The records of a catalog can be given directly, without a description in between. Their fields
are decoded by the same rules as those of a description.
-/

namespace TargetFeatures

open Decoder

namespace Extension

/-- An extension with the id that its record declares. -/
def ofFields (id : Int) (name feature negFeature : String) (fmvCode : Option Int)
    (fmvImplies : Option String) (fmvPriority : Int) : Int × Extension :=
  (id, ⟨name, feature, negFeature, fmvCode, fmvImplies, fmvPriority⟩)

/-- A record of an extension with its id. -/
def decode : Decoder (Int × Extension) :=
  record "ExtensionRecord" fun entries =>
    (((((requiredField entries "id" integer).map ofFields).apply
      (requiredField entries "name" text)).apply
      (requiredField entries "feature" text)).apply
      (requiredField entries "neg_feature" text)).apply
      (optionalField entries "fmv_code" none (nullable integer)) |>.apply
      (optionalField entries "fmv_implies" none (nullable text)) |>.apply
      (optionalField entries "fmv_priority" 0 integer)

/-- The document of an extension with an id. -/
def toValue (id : Nat) (extension : Extension) : Value :=
  .object
    [("id", .ofInt id), ("name", .ofText extension.name), ("feature", .ofText extension.feature),
     ("neg_feature", .ofText extension.negFeature),
     ("fmv_code", extension.fmvCode.elim .null .ofInt),
     ("fmv_implies", .ofText? extension.fmvImplies),
     ("fmv_priority", .ofInt extension.fmvPriority)]

end Extension

namespace ExtensionCatalog

/-- An edge between two ids. -/
def decodeEdge : Decoder (Int × Int) :=
  record "DependencyEdge" fun entries =>
    ((requiredField entries "earlier" integer).map Prod.mk).apply
      (requiredField entries "later" integer)

end ExtensionCatalog

namespace Architecture

/-- A record of an architecture. -/
def decode : Decoder Architecture :=
  record "ArchitectureRecord" fun entries =>
    ((((((requiredField entries "name" text).map mk).apply
      (requiredField entries "major" integer)).apply
      (requiredField entries "minor" integer)).apply
      (requiredField entries "profile" ArchitectureSpec.decodeProfile)).apply
      (requiredField entries "arch_feature" text)).apply
      (optionalField entries "default_extensions" 0 integer)

/-- The document of an architecture. -/
def toValue (architecture : Architecture) : Value :=
  .object
    [("name", .ofText architecture.name), ("major", .ofInt architecture.major),
     ("minor", .ofInt architecture.minor), ("profile", .ofText architecture.profile.letter),
     ("arch_feature", .ofText architecture.archFeature),
     ("sub_arch", .ofText architecture.subArch),
     ("version", .list [.ofInt architecture.major, .ofInt architecture.minor])]

end Architecture

namespace Processor

/-- A record of a processor that implements an architecture. -/
def decode (architecture : Architecture) : Decoder Processor :=
  record "ProcessorRecord" fun entries =>
    ((requiredField entries "name" text).map fun name defaults =>
        mk name architecture defaults).apply
      (optionalField entries "default_extensions" 0 integer)

end Processor

end TargetFeatures
