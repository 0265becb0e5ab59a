import TargetFeatures.Command.Options
import TargetFeatures.Command.Outcome
import TargetFeatures.Spec.Validate

/-!
# Validating from the command line

The command reads the description of a catalog from a file, or takes that of the bundled one, and
reports all findings, errors before warnings. When warnings are to count as errors, one more
error says how many there are.
-/

namespace TargetFeatures.Command.Validate

/-- The options of the command. -/
inductive OptionKey where
  | strict
  deriving DecidableEq, Repr

/-- The words of the options. -/
def rules : List (OptionRule OptionKey) := [.flag .strict "--strict" none]

/-- What the command is asked for; without a file it is about the bundled catalog. -/
structure Query where
  file : Option Path
  strict : Bool
  deriving Repr

/-- The query that words stand for. -/
def Query.ofWords (words : List String) : Except WordError Query := do
  let words ← Words.read rules words
  let file ← words.arguments.head?.mapM pathOfWord
  if words.arguments.length > 1 then throw .unfit
  return ⟨file, words.has .strict⟩

/-- A description with the name and the full name of the file that it is in. -/
structure Subject where
  spec : CatalogSpec
  name : String
  file : String

/-- The description of the bundled catalog. -/
def Subject.bundled : Subject := ⟨Bundled.spec, "aarch64.yaml", "<bundled>"⟩

/-- How the command ends when a file holds no description. -/
def stopFor (report : Report) : SpecError → Stop
  | .text .malformed | .defects _ =>
    .reported (report.failElided "Failed to load catalog: " .invalid)
  | .text error => .failed (.conversion error)
  | .file error => .failed (.file error)

/-- The description that a query is about. -/
def subjectFor (workspace : Workspace) (report : Report) (file : Option Path) :
    Except Stop Subject :=
  match file with
  | none => .ok .bundled
  | some path =>
    match workspace.probe path with
    | .ok true => do
      let spec ← (CatalogSpec.ofFile workspace path).mapError (stopFor report)
      return ⟨spec, path.name, path.text⟩
    | .ok false =>
      .error (.reported (report.fail (.ofMessage ("File not found: " ++ path.text)) .notFound))
    | .error error => .error (.failed (.file error))

/-- A finding in a record. -/
def findingValue (finding : Finding) : Value :=
  .object [("severity", .ofText finding.severity), ("category", .ofText finding.category),
    ("location", .ofText finding.location), ("message", .ofText finding.message),
    ("suggestion", .ofText? finding.suggestion), ("value", .ofText? finding.value)]

/-- The findings of a validation in a record. -/
def findingsValue (errors warnings : List Finding) : Value :=
  .object [("valid", .ofBool errors.isEmpty), ("error_count", .ofInt errors.length),
    ("warning_count", .ofInt warnings.length), ("errors", .list (errors.map findingValue)),
    ("warnings", .list (warnings.map findingValue))]

/-- The notice about a finding. -/
def noticeOf (finding : Finding) : Notice :=
  ⟨"[" ++ finding.category ++ "] " ++ finding.location ++ ": " ++ finding.message,
    some finding.location, some finding.category, finding.suggestion⟩

/-- Text for a number of warnings. -/
def warningCount (warnings : List Finding) : String :=
  Scalar.intText warnings.length ++ " warning(s)"

/-- Adds the verdict on a description to a report. -/
def addVerdict (report : Report) (errors warnings : List Finding) (strict : Bool) : Report :=
  if !errors.isEmpty then report
  else if strict && !warnings.isEmpty then
    report.fail (.ofMessage (warningCount warnings ++ " with --strict")) .invalid
  else report.success ("Catalog valid (" ++ warningCount warnings ++ ")") []

/-- Adds the findings of a validation and the verdict to a report. -/
def addFindings (report : Report) (findings : List Finding) (strict : Bool) : Report :=
  let errors := findings.filter Finding.isError
  let warnings := findings.filter (!Finding.isError ·)
  let report := report.set "validation" (findingsValue errors warnings)
  let report := errors.foldl (fun report finding => report.fail (noticeOf finding) .invalid) report
  let report := warnings.foldl (fun report finding => report.warn (noticeOf finding)) report
  addVerdict report errors warnings strict

/-- The report on a query. -/
def run (context : Context) (isRecord : Bool) (query : Query) : Except Stop Report := do
  let report ← context.startReport isRecord
  let subject ← subjectFor context.workspace report query.file
  let report := report.success ("Loaded " ++ subject.name ++ ": " ++ subject.spec.summary)
    [("catalog_file", .ofText subject.file)]
  return addFindings report (subject.spec.validate ExtensionCatalog.defaultWidth) query.strict

end TargetFeatures.Command.Validate
