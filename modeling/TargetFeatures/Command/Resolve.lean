import TargetFeatures.Command.Options
import TargetFeatures.Command.Outcome

/-!
# Resolving from the command line

The command loads a catalog, resolves the request in its words, and reports the feature list of
the session in which that ends.
-/

namespace TargetFeatures.Command.Resolve

/-- The options of the command. -/
inductive OptionKey where
  | cpu
  | arch
  | catalog
  deriving DecidableEq, Repr

/-- The words of the options. -/
def rules : List (OptionRule OptionKey) :=
  [.valued .cpu "--cpu" (some 'c'), .valued .arch "--arch" (some 'a'),
   .valued .catalog "--catalog" none]

/-- What the command is asked for. -/
structure Query where
  request : Session.Request
  catalog : Option Path
  deriving Repr

/-- The query that words stand for. -/
def Query.ofWords (words : List String) : Except WordError Query := do
  let words ← Words.read rules words
  let catalog ← (words.value? .catalog).mapM pathOfWord
  return ⟨⟨words.value? .cpu, words.value? .arch, words.arguments⟩, catalog⟩

/-- Text for the number of defects of a description. -/
def defectCount (defects : List Defect) : String :=
  let noun := if defects.length = 1 then " validation error" else " validation errors"
  Scalar.intText defects.length ++ noun ++ " for CatalogSpec"

/-- Reports that a catalog cannot be had, with the reason. -/
def unbuildable (report : Report) (reason : String) : Stop :=
  .reported (report.fail
    ⟨"Failed to build catalog: " ++ reason, none, none,
      some "Run `archext validate` on the catalog file"⟩ .unbuildable)

/-- How the command ends when a catalog cannot be had. -/
def stopFor (report : Report) : SourceError → Stop
  | .catalog error => unbuildable report (report.quoted error.message)
  | .spec (.defects found) => unbuildable report (defectCount found)
  | .spec (.text .malformed) => unbuildable report Report.elision
  | .spec (.text error) => .failed (.conversion error)
  | .spec (.file error) => .failed (.file error)

/-- The catalog of a query, or the one that the settings name. -/
def catalogFor (context : Context) (report : Report) (path : Option Path) :
    Except Stop ModelCatalog := do
  let loaded ← match path with
    | some path =>
      match context.workspace.probe path with
      | .ok true => pure (LoadedCatalog.ofFile context.workspace path)
      | .ok false =>
        .error (.reported
          (report.fail (.ofMessage ("Catalog not found: " ++ path.text)) .notFound))
      | .error error => .error (.failed (.file error))
    | none => do
      let settings ← context.loadedSettings
      pure (LoadedCatalog.ofSetting context.workspace settings.catalogPath)
  return (← loaded.mapError (stopFor report)).catalog

/-- How the command ends when a request cannot be resolved. -/
def stopForRequest (report : Report) (error : Session.ResolveError) : Stop :=
  match error with
  | .unknownArchitecture _ | .unknownProcessor _ =>
    .reported (report.fail
      ⟨error.message, none, some "UNKNOWN_TARGET",
        some ("Check the " ++ error.targetKind ++ " name against the catalog file")⟩ .notFound)
  | .unknownModifier _ =>
    .reported (report.fail
      ⟨error.message, none, some "UNKNOWN_MODIFIER",
        some "Use an extension name, or its name with the negation prefix"⟩ .invalid)
  | _ => .failed (.session error)

/-- The first line about a resolved session. -/
def headline (count : Nat) (baseArch : Option String) : String :=
  "Resolved " ++ Scalar.intText count ++ " feature decisions" ++
    (match baseArch with
    | none | some "" => ""
    | some name => " on " ++ name)

/-- Adds the features of a session to a report. -/
def addFeatures (report : Report) (baseArch : Option String) (enabled features : List String) :
    Report :=
  let report := report.success (headline features.length baseArch)
    [("base_arch", .ofText? baseArch), ("enabled", .ofTexts enabled),
      ("features", .ofTexts features)]
  report.line (" ".intercalate features)

/-- The report on a query. -/
def run (context : Context) (isRecord : Bool) (query : Query) : Except Stop Report := do
  let report ← context.startReport isRecord
  let catalog ← catalogFor context report query.catalog
  let settings ← context.loadedSettings
  let session ← (Session.resolve catalog settings.negation query.request).mapError
    (stopForRequest report)
  match session.featureList?, session.enabledNames? with
  | some features, some enabled =>
    return addFeatures report (session.state.baseArch.map Architecture.name) enabled features
  | _, _ => .error (.failed .unknownId)

end TargetFeatures.Command.Resolve
