import TargetFeatures.Data.Value
import TargetFeatures.Text.Uppercase

/-!
# Settings

Four settings can be changed: the catalog to use, the prefix that negates a modifier, the kind of
output, and the least level of messages that are logged. A setting has a key, which is a field in
a group, and a rule for the values it takes. Nothing keeps other values out of the settings
themselves; `SettingKey.accept?` is asked wherever a value comes from outside.
-/

namespace TargetFeatures

/-- The values of all settings. An empty catalog path stands for the bundled catalog. Groups of
settings describe their own fields; once that description is lost, the values can still be used,
but they can no longer be written out. -/
structure Settings where
  catalogPath : String
  negation : String
  mode : String
  logLevel : String
  isDescribed : Bool
  deriving DecidableEq, Repr

/-- One of the settings. -/
inductive SettingKey where
  | catalogPath
  | negation
  | mode
  | logLevel
  deriving DecidableEq, Repr

namespace SettingKey

/-- All keys in the order in which they are read. -/
def all : List SettingKey := [.catalogPath, .negation, .mode, .logLevel]

/-- The group of a setting. -/
def group : SettingKey → String
  | .catalogPath => "catalog"
  | .negation => "resolver"
  | .mode => "cli"
  | .logLevel => "cli"

/-- The field of a setting in its group. -/
def field : SettingKey → String
  | .catalogPath => "path"
  | .negation => "negation_prefix"
  | .mode => "mode"
  | .logLevel => "log_level"

/-- The full name of a setting. -/
def name (key : SettingKey) : String := key.group ++ "." ++ key.field

/-- The environment variable that overrides a setting. -/
def environmentName : SettingKey → String
  | .catalogPath => "ARCHEXT_CATALOG"
  | .negation => "ARCHEXT_NEGATION_PREFIX"
  | .mode => "ARCHEXT_MODE"
  | .logLevel => "ARCHEXT_LOG_LEVEL"

/-- The kinds of output. -/
def modes : List String := ["human", "agent"]

/-- The levels of messages. -/
def logLevels : List String := ["DEBUG", "INFO", "WARNING", "ERROR", "CRITICAL"]

/-- The value that a setting gets from a text, if the text is acceptable: levels may be written
in any case, and a negation prefix is not empty. -/
def accept? (key : SettingKey) (text : String) : Option String :=
  match key with
  | .catalogPath => some text
  | .negation => if text = "" then none else some text
  | .mode => if modes.contains text then some text else none
  | .logLevel =>
    let level := Text.uppercase text
    if logLevels.contains level then some level else none

end SettingKey

namespace Settings

/-- The settings where nothing was set. -/
def default : Settings := ⟨"", "no", "human", "WARNING", true⟩

/-- The value of a setting. -/
def get (settings : Settings) : SettingKey → String
  | .catalogPath => settings.catalogPath
  | .negation => settings.negation
  | .mode => settings.mode
  | .logLevel => settings.logLevel

/-- The settings after one got a value. -/
def set (settings : Settings) (key : SettingKey) (value : String) : Settings :=
  match key with
  | .catalogPath => { settings with catalogPath := value }
  | .negation => { settings with negation := value }
  | .mode => { settings with mode := value }
  | .logLevel => { settings with logLevel := value }

/-- A setting has the value it was last given. -/
@[simp]
theorem get_set_self (settings : Settings) (key : SettingKey) (value : String) :
    (settings.set key value).get key = value := by
  cases key <;> rfl

/-- Giving one setting a value leaves the others alone. -/
theorem get_set_of_ne (settings : Settings) {key other : SettingKey} (value : String)
    (distinct : other ≠ key) : (settings.set key value).get other = settings.get other := by
  cases key <;> cases other <;> simp_all [get, set]

/-- Giving a setting a value leaves the description of the groups alone. -/
@[simp]
theorem isDescribed_set (settings : Settings) (key : SettingKey) (value : String) :
    (settings.set key value).isDescribed = settings.isDescribed := by
  cases key <;> rfl

/-- Settings with the same values and the same state of their description are the same. -/
theorem ext_get {left right : Settings} (agree : ∀ key, left.get key = right.get key)
    (described : left.isDescribed = right.isDescribed) : left = right := by
  cases left
  cases right
  have path := agree .catalogPath
  have negation := agree .negation
  have mode := agree .mode
  have level := agree .logLevel
  simp only [get] at path negation mode level
  simp only at described
  simp [path, negation, mode, level, described]

/-- The settings as a document: a mapping of groups, each a mapping of fields. -/
def toValue (settings : Settings) : Value :=
  .object
    [("catalog", .object [("path", .ofText settings.catalogPath)]),
     ("resolver", .object [("negation_prefix", .ofText settings.negation)]),
     ("cli", .object
       [("mode", .ofText settings.mode), ("log_level", .ofText settings.logLevel)])]

end Settings

end TargetFeatures
