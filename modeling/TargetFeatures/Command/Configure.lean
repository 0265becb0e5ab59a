import TargetFeatures.Command.Options
import TargetFeatures.Command.Outcome

/-!
# Settings from the command line

The command shows the settings, sets one of them, or resets all to their defaults. It always
prints lines, after it has done what it was asked for. Setting a value writes all settings that are
in force to their file, so that values from the environment are kept too.
-/

namespace TargetFeatures.Command.Configure

/-- What the command is asked for. -/
structure Query where
  action : String
  key : Option String
  value : Option String
  deriving Repr

/-- The query that words stand for; the command has no options. -/
def Query.ofWords? (words : List String) : Option Query := do
  let words ← Words.read? ([] : List (OptionRule Unit)) true words
  match words.arguments with
  | [action] => some ⟨action, none, none⟩
  | [action, key] => some ⟨action, some key, none⟩
  | [action, key, value] => some ⟨action, some key, some value⟩
  | _ => none

/-- Why a value is not set. -/
inductive Refusal where
  | usage
  | unknownKey (name : String)
  | logLevel (level : String)
  | mode (word : String)
  | emptyNegation
  deriving DecidableEq, Repr

/-- The names of the settings in the order of the alphabet. -/
def keyNames : List String :=
  ["catalog.path", "cli.log_level", "cli.mode", "resolver.negation_prefix"]

/-- The lines that say which settings there are. -/
def keyLines : List String := ["", "Available keys:"] ++ keyNames.map ("  " ++ ·)

/-- The lines about a value that is not set. -/
def Refusal.lines : Refusal → List String
  | .usage => "Usage: archext config set <key> <value>" :: keyLines
  | .unknownKey name => ("Unknown key: " ++ name) :: keyLines
  | .logLevel level => ["Invalid log level: " ++ level]
  | .mode word => ["Invalid mode: " ++ word]
  | .emptyNegation => ["Negation prefix cannot be empty"]

/-- The setting with a name. -/
def keyOf? (name : String) : Option SettingKey := SettingKey.all.find? (·.name == name)

/-- The value that a setting is to get. -/
def checkValue (key : SettingKey) (value : String) : Except Refusal String :=
  match key with
  | .catalogPath => .ok value
  | .negation => if value.isEmpty then .error .emptyNegation else .ok value
  | .mode => if SettingKey.modes.contains value then .ok value else .error (.mode value)
  | .logLevel =>
    let level := Text.uppercase value
    if SettingKey.logLevels.contains level then .ok level else .error (.logLevel level)

/-- The setting and the value that words ask for. -/
def assignment (key value : Option String) : Except Refusal (SettingKey × String) :=
  match key, value with
  | none, _ | some "", _ | _, none => .error .usage
  | some name, some value =>
    match keyOf? name with
    | none => .error (.unknownKey name)
    | some key => (checkValue key value).map fun value => (key, value)

/-- The lines that show settings. -/
def settingLines (settings : Settings) (file : Path) (hasFile : Bool) : List String :=
  let path := if settings.catalogPath.isEmpty then "(bundled)" else settings.catalogPath
  let place := if hasFile then file.text else "not created yet (" ++ file.text ++ ")"
  ["", "archext Configuration", String.ofList (List.replicate 40 '─'),
   "", "Catalog", "  path = " ++ path,
   "", "Resolver", "  negation_prefix = " ++ settings.negation,
   "", "CLI", "  mode      = " ++ settings.mode, "  log_level = " ++ settings.logLevel,
   "", "Config file: " ++ place, ""]

/-- The settings in force. -/
def settingsOf (store : SettingsStore) : Except Failure Settings :=
  (store.get.mapError fun failure => .settings failure.error).map LoadedSettings.settings

/-- Shows the settings in force. -/
def display (console : Console) (store : SettingsStore) : Except Failure Outcome := do
  let settings ← settingsOf store
  return .printing console .success (settingLines settings store.file store.hasFile)

/-- The lines about a value that was saved. -/
def savedLines (file : Path) (key : SettingKey) (value : String) : List String :=
  ["✓ Set " ++ key.name ++ " = " ++ value, "  Saved to " ++ file.text]

/-- Gives a setting a value and saves the settings. Those that cannot be written out leave an
empty file behind. -/
def assign (console : Console) (store : SettingsStore) (key : SettingKey) (value : String) :
    Except Failure (Outcome × SettingsStore) := do
  let settings ← settingsOf store
  let changed := settings.set key value
  let saved ← (store.save changed).mapError .file
  match changed.document with
  | .error error => return (.failed (.settings error), saved)
  | .ok _ => return (.printing console .success (savedLines store.file key value), saved.reset)

/-- Removes the file of settings if there is one. -/
def restore (console : Console) (store : SettingsStore) :
    Except Failure (Outcome × SettingsStore) :=
  if store.hasFile then do
    let removed ← store.removeFile.mapError .file
    return (.printing console .success
      ["✓ Config reset to defaults", "  Removed " ++ store.file.text], removed.reset)
  else
    .ok (.printing console .success ["Config already at defaults (no config file exists)"], store)

/-- Runs a query; the result holds the store as it is left. -/
def run (console : Console) (store : SettingsStore) (query : Query) :
    Except Failure (Outcome × SettingsStore) :=
  match query.action with
  | "show" => (display console store).map fun outcome => (outcome, store)
  | "set" =>
    match assignment query.key query.value with
    | .error refusal => .ok (.printing console .invalid refusal.lines, store)
    | .ok (key, value) => assign console store key value
  | "reset" => restore console store
  | action =>
    .ok (.printing console .invalid
      ["Unknown action: " ++ action, "Valid actions: show, set, reset"], store)

end TargetFeatures.Command.Configure
