import TargetFeatures.Spec.Basic
import TargetFeatures.Spec.Field

/-!
# Reading a catalog description from a document

`CatalogSpec.decode` makes a catalog description of a document and reports all its defects in the
order of the fields. A dependency may be written as a pair. `CatalogSpec.toValue` is the document
of a description.
-/

namespace TargetFeatures

open Decoder

namespace ExtensionSpec

/-- A priority: an integer in the range of priorities. -/
def decodePriority : Decoder (Fin (maxPriority + 1)) := fun value =>
  (integer value).andThen fun number =>
    if number < 0 then .fail (.below 0)
    else if bound : number.toNat < maxPriority + 1 then .valid ⟨number.toNat, bound⟩
    else .fail (.above maxPriority)

/-- An extension. -/
def decode : Decoder ExtensionSpec :=
  record "ExtensionEntry" fun entries =>
    (((((requiredField entries "name" text).map mk).apply
      (requiredField entries "feature" text)).apply
      (optionalField entries "neg_feature" none (nullable text))).apply
      (optionalField entries "fmv_code" none (nullable integer))).apply
      (optionalField entries "fmv_implies" none (nullable text)) |>.apply
      (optionalField entries "fmv_priority" leastPriority decodePriority)

/-- The entries of the document of an extension. -/
def entries (extension : ExtensionSpec) : List (String × Value) :=
  [("name", .ofText extension.name), ("feature", .ofText extension.feature),
   ("neg_feature", .ofText? extension.negFeature),
   ("fmv_code", extension.fmvCode.elim .null .ofInt),
   ("fmv_implies", .ofText? extension.fmvImplies),
   ("fmv_priority", .ofInt extension.fmvPriority.val)]

end ExtensionSpec

namespace DependencySpec

/-- A dependency as a record. -/
def decodeEntries (entries : List (Scalar × Value)) : Checked DependencySpec :=
  ((requiredField entries "earlier" text).map mk).apply (requiredField entries "later" text)

/-- What is wrong with a document that should be a pair. -/
def notPair (document : Value) : DefectCause :=
  if document.isShowable then .notPair document.display else .unshowable

/-- A dependency as a list of its two ends; `document` is the whole list. -/
def decodePair (document : Value) : List Value → Checked DependencySpec
  | [earlier, later] => decodeEntries [(.text "earlier", earlier), (.text "later", later)]
  | _ => .fail (notPair document)

/-- A dependency, as a record or as a pair. -/
def decode : Decoder DependencySpec
  | .list items => decodePair (.list items) items
  | .tuple items => decodePair (.tuple items) items
  | value => record "DependencySpec" decodeEntries value

/-- The entries of the document of a dependency. -/
def entries (dependency : DependencySpec) : List (String × Value) :=
  [("earlier", .ofText dependency.earlier), ("later", .ofText dependency.later)]

end DependencySpec

namespace ArchitectureSpec

/-- A number at a position of a version. -/
def versionPart (items : List Value) (position : Nat) : Checked Int :=
  ((items[position]?).elim (.fail .missing) integer).within (.number position)

/-- A version: two integers. -/
def decodeVersion : Decoder (Int × Int) := fun value =>
  match members? value with
  | none => .fail .notTuple
  | some items =>
    if items.length > 2 then .fail (.tooLong items.length)
    else ((versionPart items 0).map Prod.mk).apply (versionPart items 1)

/-- A profile by its letter. -/
def decodeProfile : Decoder Profile
  | .scalar (.text letter) =>
    match Profile.ofLetter? letter with
    | some profile => .valid profile
    | none => .fail (if Text.hasHalf letter then .notUnicode else .notProfile)
  | _ => .fail .notProfile

/-- An architecture with its version as a pair. -/
def ofVersion (name : String) (version : Int × Int) : Profile → String → Option String →
    List String → List String → ArchitectureSpec :=
  mk name version.1 version.2

/-- An architecture. -/
def decode : Decoder ArchitectureSpec :=
  record "ArchitectureEntry" fun entries =>
    ((((((requiredField entries "name" text).map ofVersion).apply
      (requiredField entries "version" decodeVersion)).apply
      (optionalField entries "profile" .application decodeProfile)).apply
      (requiredField entries "arch_feature" text)).apply
      (optionalField entries "base" none (nullable text))).apply
      (optionalField entries "add" [] (list text)) |>.apply
      (optionalField entries "remove" [] (list text))

/-- The entries of the document of an architecture. -/
def entries (architecture : ArchitectureSpec) : List (String × Value) :=
  [("name", .ofText architecture.name),
   ("version", .list [.ofInt architecture.major, .ofInt architecture.minor]),
   ("profile", .ofText architecture.profile.letter),
   ("arch_feature", .ofText architecture.archFeature),
   ("base", .ofText? architecture.base),
   ("add", .ofTexts architecture.add),
   ("remove", .ofTexts architecture.remove)]

end ArchitectureSpec

namespace ProcessorSpec

/-- A processor. -/
def decode : Decoder ProcessorSpec :=
  record "ProcessorEntry" fun entries =>
    (((requiredField entries "name" text).map mk).apply
      (requiredField entries "arch" text)).apply
      (optionalField entries "extensions" [] (list text))

/-- The entries of the document of a processor. -/
def entries (processor : ProcessorSpec) : List (String × Value) :=
  [("name", .ofText processor.name), ("arch", .ofText processor.arch),
   ("extensions", .ofTexts processor.extensions)]

end ProcessorSpec

namespace AliasTable

/-- A table of alternate names. -/
def decode : Decoder AliasTable := fun value => (textMapping value).map ofList

/-- The document of a table. -/
def toValue (table : AliasTable) : Value :=
  .object (table.entries.map fun (alternate, name) => (alternate, .ofText name))

/-- Both tables of a catalog. -/
def decodeBoth : Decoder (AliasTable × AliasTable) :=
  record "AliasTables" fun entries =>
    ((optionalField entries "cpu" empty decode).map Prod.mk).apply
      (optionalField entries "extension" empty decode)

end AliasTable

namespace CatalogSpec

/-- A catalog description with its two alias tables as a pair. -/
def ofAliases (extensions : List ExtensionSpec) (dependencies : List DependencySpec)
    (architectures : List ArchitectureSpec) (processors : List ProcessorSpec)
    (aliases : AliasTable × AliasTable) : CatalogSpec :=
  ⟨extensions, dependencies, architectures, processors, aliases.1, aliases.2⟩

/-- A catalog description. -/
def decode : Decoder CatalogSpec :=
  record "CatalogSpec" fun entries =>
    ((((requiredField entries "extensions" (list ExtensionSpec.decode)).map ofAliases).apply
      (optionalField entries "dependencies" [] (list DependencySpec.decode))).apply
      (optionalField entries "architectures" [] (list ArchitectureSpec.decode))).apply
      (optionalField entries "processors" [] (list ProcessorSpec.decode)) |>.apply
      (optionalField entries "aliases" (.empty, .empty) AliasTable.decodeBoth)

/-- A record without the fields that hold nothing. -/
def dropNulls (entries : List (String × Value)) : List (String × Value) :=
  entries.filter fun entry =>
    match entry.2 with
    | .scalar .null => false
    | _ => true

/-- The document of a description, where a function says which fields of a record are kept. -/
def toValueWith (keep : List (String × Value) → List (String × Value)) (spec : CatalogSpec) :
    Value :=
  let records (entries : List (List (String × Value))) : Value :=
    .list (entries.map fun record => .object (keep record))
  .object
    [("extensions", records (spec.extensions.map ExtensionSpec.entries)),
     ("dependencies", records (spec.dependencies.map DependencySpec.entries)),
     ("architectures", records (spec.architectures.map ArchitectureSpec.entries)),
     ("processors", records (spec.processors.map ProcessorSpec.entries)),
     ("aliases", .object [("cpu", spec.cpuAliases.toValue),
       ("extension", spec.extensionAliases.toValue)])]

/-- The document of a description with every field. -/
def toFullValue (spec : CatalogSpec) : Value := spec.toValueWith id

/-- The document of a description without the fields that hold nothing. -/
def toValue (spec : CatalogSpec) : Value := spec.toValueWith dropNulls

end CatalogSpec

end TargetFeatures
