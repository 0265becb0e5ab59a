import TargetFeatures.Command.Run

/-!
# The program

Collects the files that a run may read into a workspace, runs the program on it, and carries a
change of the settings file over to the disk.
-/

namespace TargetFeatures.Program

/-- Adds what is at a path on the disk to a workspace. A file that is not UTF-8 has no place in one
and counts as missing. -/
def lookAt (workspace : Workspace) (path : Path) : IO Workspace := do
  match ← (IO.FS.readFile path.text).toBaseIO with
  | .ok text => return workspace.add path text
  | .error (.inappropriateType ..) => return workspace.addDirectory path
  | .error _ => return workspace

/-- Adds what is at a path and along the way to it. -/
def visit (workspace : Workspace) (path : Path) : IO Workspace :=
  (List.range path.names.length).foldlM
    (fun workspace count => lookAt workspace { path with names := path.names.take (count + 1) })
    workspace

/-- The paths that words may name: each word, and what follows an equals sign in it. -/
def pathsIn (words : List String) : List Path :=
  words.flatMap fun word =>
    let (_, attached) := Command.OptionWord.splitValue word.toList
    (word :: attached.toList).map Path.ofText

/-- The path that the settings name a catalog with. -/
def configuredPath (store : SettingsStore) : List Path :=
  match store.get with
  | .ok loaded => [Path.ofText loaded.settings.catalogPath]
  | .error _ => []

/-- Writes the settings file to the disk, or removes it there. -/
def carryOver (before after : SettingsStore) : IO Unit := do
  if after.fileText? ≠ before.fileText? then
    match after.fileText? with
    | some text =>
      IO.FS.createDirAll after.file.parent.text
      IO.FS.writeFile after.file.text text
    | none => IO.FS.removeFile after.file.text

/-- Message for a failure that ended a run. -/
def failureMessage : Command.Failure → String
  | .settings error => error.message
  | .file error => error.message
  | .conversion error => error.message
  | .session error => error.message
  | .unknownId => Session.IdError.unknown.message

/-- The store of a run with the given words. -/
def gather (words : List String) : IO SettingsStore := do
  let home := (← IO.getEnv "HOME").getD ""
  let file := Path.ofText (home ++ "/.config/archext/config.json")
  let assigned ← SettingKey.all.mapM fun key => do
    return (← IO.getEnv key.environmentName).map fun value => (key.environmentName, value)
  let environment := Environment.ofVariables (assigned.filterMap id)
  let workspace ← (file :: pathsIn words).foldlM visit .empty
  let store := SettingsStore.start workspace file environment
  return { store with workspace := ← (configuredPath store).foldlM visit workspace }

end TargetFeatures.Program

open TargetFeatures in
def main (words : List String) : IO UInt32 := do
  let store ← Program.gather words
  let (outcome, left) := Command.run store words
  Program.carryOver store left
  IO.print outcome.output
  if outcome.exitCode = .usage then
    IO.eprintln "Usage: archext [--json] [--verbose] [--version] (resolve | validate | config) ..."
  if let some failure := outcome.failure then IO.eprintln (Program.failureMessage failure)
  return outcome.exitCode.number.toUInt32
