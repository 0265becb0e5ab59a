import TargetFeatures.Json.Reader
import TargetFeatures.Settings.Basic
import TargetFeatures.Settings.Reserved
import TargetFeatures.Workspace.Basic

/-!
# Layers of settings

Settings come in layers: the default values, a file, and the environment, where a later layer
overrides an earlier one setting by setting. A value that a setting does not take is left out
with a warning and changes nothing. A file that holds JSON, but no mapping, is refused, and so
are one with too long an integer or too deep a nesting and one that gives a text to a field of a
group that takes none.
-/

namespace TargetFeatures

/-- The values of the environment variables of the settings. -/
abbrev Environment := SettingKey → Option String

namespace Environment

/-- An environment in which no variable is set. -/
def empty : Environment := fun _ => none

/-- The environment that a list of variables describes. -/
def ofVariables (assigned : List (String × String)) : Environment := fun key =>
  (assigned.find? (·.1 == key.environmentName)).map Prod.snd

end Environment

/-- What is said about values that are not used. -/
inductive SettingWarning where
  | unreadable (file : Path)
  | refusedField (file : Path) (name : String) (value : Value)
  | refusedVariable (key : SettingKey) (value : String)
  deriving Repr

/-- Text of a warning. -/
def SettingWarning.message : SettingWarning → String
  | .unreadable file => "Failed to load config from " ++ file.text
  | .refusedField file name value =>
    "Invalid " ++ name ++ "=" ++ value.display ++ " in " ++ file.text ++ ", ignoring"
  | .refusedVariable key value =>
    "Invalid " ++ key.environmentName ++ "=" ++ Text.quoted value ++ ", ignoring"

/-- Settings with the warnings that came up while they were read. -/
structure LoadedSettings where
  settings : Settings
  warnings : List SettingWarning
  deriving Repr

/-- Settings that could not be loaded, with the warnings that came up before. -/
structure LoadFailure where
  error : SettingsError
  warnings : List SettingWarning
  deriving Repr

namespace LoadedSettings

/-- Settings before any layer is added. -/
def start : LoadedSettings := ⟨.default, []⟩

/-- Gives a setting a value, or notes why there is none. -/
def take (loaded : LoadedSettings) (key : SettingKey) (value : Option String)
    (warning : SettingWarning) : LoadedSettings :=
  match value with
  | some value => { loaded with settings := loaded.settings.set key value }
  | none => { loaded with warnings := loaded.warnings ++ [warning] }

/-- The setting that a field of a group is. -/
def fieldKey? (group : String) (field : Scalar) : Option SettingKey :=
  SettingKey.all.find? fun key => key.group == group && field == .text key.field

/-- Adds a text for a reserved field. -/
def addReserved (loaded : LoadedSettings) : ReservedField → Except LoadFailure LoadedSettings
  | .idle => .ok loaded
  | .description => .ok { loaded with settings := { loaded.settings with isDescribed := false } }
  | .refused error => .error ⟨error, loaded.warnings⟩

/-- Adds a field of a group in the file; a field that the group does not have is ignored. -/
def addField (file : Path) (group : String) (loaded : LoadedSettings)
    (entry : Scalar × Value) : Except LoadFailure LoadedSettings :=
  match fieldKey? group entry.1, entry.1 with
  | some key, _ =>
    .ok (loaded.take key (entry.2.text?.bind key.accept?) (.refusedField file key.name entry.2))
  | none, .text name =>
    match ReservedField.ofName? group name with
    | none => .ok loaded
    | some field =>
      if entry.2.text?.isSome then loaded.addReserved field
      else
        .ok { loaded with warnings :=
          loaded.warnings ++ [.refusedField file (group ++ "." ++ name) entry.2] }
  | none, _ => .ok loaded

/-- Adds a group of the file; a group that is not a mapping is ignored. -/
def addGroup (file : Path) (entries : List (Scalar × Value)) (loaded : LoadedSettings)
    (group : String) : Except LoadFailure LoadedSettings :=
  match Value.lookup? entries group with
  | some (.map fields) => fields.foldlM (addField file group) loaded
  | _ => .ok loaded

/-- The groups in the order in which they are read. -/
def groups : List String := ["catalog", "resolver", "cli"]

/-- Adds the layer of a file that holds a mapping. -/
def addEntries (loaded : LoadedSettings) (file : Path) (entries : List (Scalar × Value)) :
    Except LoadFailure LoadedSettings :=
  groups.foldlM (addGroup file entries) loaded

/-- Adds an environment variable; an empty one counts as not set. -/
def addVariable (environment : Environment) (loaded : LoadedSettings) (key : SettingKey) :
    LoadedSettings :=
  match environment key with
  | none | some "" => loaded
  | some value => loaded.take key (key.accept? value) (.refusedVariable key value)

/-- Adds the layer of the environment. -/
def addEnvironment (loaded : LoadedSettings) (environment : Environment) : LoadedSettings :=
  SettingKey.all.foldl (addVariable environment) loaded

end LoadedSettings

namespace Settings

/-- The limits for a file of settings, where the nesting depends on how much of its stack the
program has left. -/
def fileLimits (nesting : Nat) : Json.Limits := ⟨some Numeral.digitLimit, some nesting⟩

/-- The nesting that a program has room for when it is started from a command line. -/
def usualNesting : Nat := 980

/-- The default settings under the layer of a file. A file whose text cannot be read, and one
that holds no JSON, adds nothing but a warning. -/
def ofFile (nesting : Nat) (file : Path) (text : Option String) :
    Except LoadFailure LoadedSettings :=
  match text.map (Json.read (fileLimits nesting)) with
  | some (.ok (.map entries)) => LoadedSettings.start.addEntries file entries
  | some (.ok document) => .error ⟨.notMapping document, []⟩
  | some (.error (.longInteger digits)) => .error ⟨.longInteger digits, []⟩
  | some (.error (.deepNesting isMapping)) => .error ⟨.deepNesting isMapping, []⟩
  | some (.error .malformed) | none => .ok ⟨.default, [.unreadable file]⟩

/-- The settings as a document, which they need their description for. -/
def document (settings : Settings) : Except SettingsError Value :=
  if settings.isDescribed then .ok settings.toValue else .error .undescribed

end Settings

end TargetFeatures
