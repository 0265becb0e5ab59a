import TargetFeatures.Catalog.Bundled
import TargetFeatures.Spec.Decode
import TargetFeatures.Workspace.Basic
import TargetFeatures.Yaml.Document

/-!
# Catalogs from files

A catalog is read from a file that is named outright, or from the one that the settings name. An
empty setting stands for the bundled catalog, which also takes the place of a file that the
settings name and that is not there.
-/

namespace TargetFeatures

/-- Why a file gives no description of a catalog. -/
inductive SpecError where
  | file (error : FileError)
  | text (error : Yaml.Error)
  | defects (found : List Defect)

/-- Why a file gives no catalog. -/
inductive SourceError where
  | spec (error : SpecError)
  | catalog (error : CatalogError)

/-- The description of a catalog in the file that a path leads to. -/
def CatalogSpec.ofFile (workspace : Workspace) (path : Path) :
    Except SpecError CatalogSpec := do
  let text ← (workspace.read path).mapError .file
  let document ← (Yaml.read text).mapError .text
  match decode document with
  | .valid spec => .ok spec
  | .invalid found => .error (.defects found)

/-- A catalog with where it came from: whether it is the bundled one, and the file that the
settings name if that is not there. -/
structure LoadedCatalog where
  catalog : ModelCatalog
  isBundled : Bool
  missing : Option String

namespace LoadedCatalog

/-- Text of the warning about a file that is not there. -/
def missingMessage (name : String) : String :=
  "Configured catalog " ++ name ++ " not found, using bundled catalog"

/-- The bundled catalog, used in place of a missing file if one is given. -/
def bundled (missing : Option String) : Except SourceError LoadedCatalog := do
  return ⟨← Bundled.catalog.mapError .catalog, true, missing⟩

/-- The catalog in the file that a path leads to. -/
def ofFile (workspace : Workspace) (path : Path) : Except SourceError LoadedCatalog := do
  let spec ← (CatalogSpec.ofFile workspace path).mapError .spec
  return ⟨← (ModelCatalog.build spec).mapError .catalog, false, none⟩

/-- The catalog that a setting names. -/
def ofSetting (workspace : Workspace) (setting : String) : Except SourceError LoadedCatalog :=
  if setting = "" then bundled none
  else
    let path := Path.ofText setting
    match workspace.probe path with
    | .ok true => ofFile workspace path
    | .ok false => bundled (some setting)
    | .error error => .error (.spec (.file error))

end LoadedCatalog

end TargetFeatures
