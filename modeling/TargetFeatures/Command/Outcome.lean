import TargetFeatures.Catalog.Source
import TargetFeatures.Command.Report
import TargetFeatures.Session.Resolve
import TargetFeatures.Settings.Store

/-!
# How commands end

A command ends with a report, or it fails in a way that it does not report: a file that cannot be
used, settings that cannot be loaded, or a value in a catalog file that cannot be converted.
-/

namespace TargetFeatures.Command

/-- A failure that no command reports. -/
inductive Failure where
  | settings (error : SettingsError)
  | file (error : FileError)
  | conversion (error : Yaml.Error)
  | session (error : Session.ResolveError)
  | unknownId

/-- Why a command stops before its last step. -/
inductive Stop where
  | failed (failure : Failure)
  | reported (report : Report)

/-- What a run of the program leaves: its exit code, its output, and what ended it if it was ended:
a failure, or a line that the console did not print. -/
structure Outcome where
  exitCode : ExitCode
  output : String
  failure : Option Failure
  unprinted : Option String

namespace Outcome

/-- A run that printed lines and ended well. -/
def done (output : String) : Outcome := ⟨.success, output, none, none⟩

/-- A run whose words could not be read. -/
def misused : Outcome := ⟨.usage, "", none, none⟩

/-- A run that failed without a report. -/
def failed (failure : Failure) : Outcome := ⟨.invalid, "", some failure, none⟩

/-- A run that prints lines before it ends with an exit code. It ends at the first line that the
console does not print. -/
def printing (console : Console) (exitCode : ExitCode) : List String → Outcome
  | [] => ⟨exitCode, "", none, none⟩
  | line :: rest =>
    match console (line ++ "\n") with
    | none => ⟨.invalid, "", none, some line⟩
    | some shown =>
      let outcome := printing console exitCode rest
      { outcome with output := shown ++ outcome.output }

/-- A run that ended with a report. -/
def ofReport (report : Report) : Outcome := ⟨report.exitCode, report.output, none, none⟩

/-- A run of a command that may have stopped early. -/
def ofRun : Except Stop Report → Outcome
  | .ok report => ofReport report
  | .error (.reported report) => ofReport report
  | .error (.failed failure) => failed failure

end Outcome

/-- What a command has to work with. Settings are loaded at the start, but a failure to load them
ends only a command that asks for them. -/
structure Context where
  workspace : Workspace
  settings : Except SettingsError Settings

namespace Context

/-- The settings, which a command cannot do without. -/
def loadedSettings (context : Context) : Except Stop Settings :=
  context.settings.mapError (.failed <| .settings ·)

/-- The empty report of a command: a record if that is asked for here or in the settings. -/
def startReport (context : Context) (isRecord : Bool) : Except Stop Report := do
  if isRecord then return .start true
  else return .start ((← context.loadedSettings).mode = "agent")

end Context

end TargetFeatures.Command
