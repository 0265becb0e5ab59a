import TargetFeatures.Command.Configure
import TargetFeatures.Command.Resolve
import TargetFeatures.Command.Validate

/-!
# Running the program

The words of a run are global options, the name of a command, and the words of that command. The
name is looked up before settings are loaded, and settings are loaded before the words of the
command are read; a verbose run has no use for the settings and leaves that to the command. Words
that do not start with the name of a command are read as global options once more, which only
matters if they ask for the version.
-/

namespace TargetFeatures.Command

/-- The global options. -/
inductive GlobalKey where
  | json
  | verbose
  | version
  deriving DecidableEq, Repr

/-- The words of the global options. -/
def globalRules : List (OptionRule GlobalKey) :=
  [.flag .json "--json" none, .flag .verbose "--verbose" (some 'v'),
   .flag .version "--version" none]

/-- What the program says about its version. -/
def versionLine : String := "archext 0.1.0\n"

/-- The commands. -/
inductive Name where
  | resolve
  | validate
  | config
  deriving DecidableEq, Repr

/-- The command with a name. -/
def Name.ofText? : String → Option Name
  | "resolve" => some .resolve
  | "validate" => some .validate
  | "config" => some .config
  | _ => none

/-- Runs a command that leaves the store as it is. -/
def runQuery {α : Type} (store : SettingsStore) (query : Except WordError α)
    (run : Context → α → Except Stop Report) : Outcome × SettingsStore :=
  match query with
  | .error .unfit => (.misused, store)
  | .error (.path error) => (.failed (.file error), store)
  | .ok query =>
    let context : Context :=
      ⟨store.workspace, (store.get.map LoadedSettings.settings).mapError LoadFailure.error⟩
    (.ofRun (run context query), store)

/-- Runs a command with its words. -/
def runCommand (console : Console) (store : SettingsStore) (isRecord : Bool) (name : Name)
    (words : List String) : Outcome × SettingsStore :=
  match name with
  | .resolve =>
    runQuery store (Resolve.Query.ofWords words) fun context => Resolve.run context isRecord
  | .validate =>
    runQuery store (Validate.Query.ofWords words) fun context => Validate.run context isRecord
  | .config =>
    match Configure.Query.ofWords? words with
    | none => (.misused, store)
    | some query =>
      match Configure.run console store query with
      | .ok result => result
      | .error failure => (.failed failure, store)

/-- A run whose words do not start with the name of a command. -/
def runUnnamed (words : List String) : Outcome :=
  match Words.read? globalRules false words with
  | none => .misused
  | some globals => if globals.has .version then .done versionLine else .misused

/-- Runs the program on its words with a console. -/
def runOn (console : Console) (store : SettingsStore) (words : List String) :
    Outcome × SettingsStore :=
  match Words.read? globalRules false words with
  | none => (.misused, store)
  | some globals =>
    if globals.has .version then (.done versionLine, store)
    else
      match globals.arguments with
      | [] => (.misused, store)
      | word :: rest =>
        match Name.ofText? word, store.get with
        | none, _ => (runUnnamed (word :: rest), store)
        | some name, .ok _ => runCommand console store (globals.has .json) name rest
        | some name, .error failure =>
          if globals.has .verbose then runCommand console store (globals.has .json) name rest
          else (.failed (.settings failure.error), store)

/-- Runs the program on its words, where every line is printed as it stands. -/
def run (store : SettingsStore) (words : List String) : Outcome × SettingsStore :=
  runOn .plain store words

end TargetFeatures.Command
