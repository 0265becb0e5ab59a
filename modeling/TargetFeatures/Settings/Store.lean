import TargetFeatures.Json.Writer
import TargetFeatures.Settings.Layers
import TargetFeatures.Text.Lines
import TargetFeatures.Workspace.Basic

/-!
# The settings in force

A program loads its settings when they are first asked for and keeps them from then on, until
they are replaced or forgotten. They are saved as JSON to the file that they are loaded from.
-/

namespace TargetFeatures

/-- Where settings come from, and those in force once they were asked for. -/
structure SettingsStore where
  workspace : Workspace
  file : Path
  environment : Environment
  /-- The nesting that there is room for when the file is read. -/
  nesting : Nat
  inForce : Option Settings

namespace Settings

/-- The text of a file that holds settings. Settings that cannot be written out leave the file
empty. -/
def fileText (settings : Settings) : String :=
  match settings.document with
  | .ok document => Json.pretty document
  | .error _ => ""

/-- Reads the settings from their file, if there is one, and the environment. -/
def load (nesting : Nat) (workspace : Workspace) (file : Path) (environment : Environment) :
    Except LoadFailure LoadedSettings := do
  let loaded ← if workspace.contains file then ofFile nesting file (workspace.text? file)
    else .ok .start
  return loaded.addEnvironment environment

end Settings

namespace SettingsStore

/-- A store in which no settings are in force. -/
def start (workspace : Workspace) (file : Path) (environment : Environment) : SettingsStore :=
  ⟨workspace, file, environment, Settings.usualNesting, none⟩

/-- Reads the settings without putting them in force. -/
def load (store : SettingsStore) : Except LoadFailure LoadedSettings :=
  Settings.load store.nesting store.workspace store.file store.environment

/-- The settings in force, which are loaded when there are none. -/
def get (store : SettingsStore) : Except LoadFailure LoadedSettings :=
  match store.inForce with
  | some settings => .ok ⟨settings, []⟩
  | none => store.load

/-- Puts settings in force. -/
def configure (store : SettingsStore) (settings : Settings) : SettingsStore :=
  { store with inForce := some settings }

/-- Forgets the settings in force. -/
def reset (store : SettingsStore) : SettingsStore := { store with inForce := none }

/-- Writes settings to the file. -/
def save (store : SettingsStore) (settings : Settings) : Except FileError SettingsStore := do
  return { store with workspace := ← store.workspace.write store.file settings.fileText }

/-- Whether there is a file of settings. -/
def hasFile (store : SettingsStore) : Bool := store.workspace.contains store.file

/-- The text of the file of settings, as it is read. -/
def fileText? (store : SettingsStore) : Option String :=
  (store.workspace.text? store.file).map Text.asRead

/-- Removes the file of settings. -/
def removeFile (store : SettingsStore) : Except FileError SettingsStore := do
  return { store with workspace := ← store.workspace.remove store.file }

end SettingsStore

end TargetFeatures
