import TargetFeatures.Text.Octets
import TargetFeatures.Workspace.Path

/-!
# Workspaces

A workspace is what a program sees of the files around it: texts by place, and the directories
that are there. A place is the list of names that lead to it from the working directory; places
outside start with two dots for each level up, or with the root.

A file has a text here, which its octets give by UTF-8. What a program does with a file whose
octets are not UTF-8 is left out: there is no text to read, and reading it fails in a way of its
own that no command is ready for.
-/

namespace TargetFeatures

/-- The names that lead from the working directory to a file or directory. -/
abbrev Place := List String

/-- Why a file cannot be used. -/
inductive FileDefect where
  | missing
  | alreadyThere
  | notDirectory
  | isDirectory
  /-- A name in the path, or the path as a whole, has too many octets. -/
  | nameTooLong
  /-- The path has a zero character in it, which ends a text for the system. -/
  | zeroCharacter
  /-- The path has no octets. -/
  | strayHalves (found : Text.StrayHalves)
  deriving DecidableEq, Repr

/-- A file that cannot be used. -/
structure FileError where
  defect : FileDefect
  path : Path
  deriving DecidableEq, Repr

/-- The description of a defect, with its number if the system has one for it. -/
def FileDefect.description : FileDefect → String
  | .missing => "[Errno 2] No such file or directory"
  | .alreadyThere => "[Errno 17] File exists"
  | .notDirectory => "[Errno 20] Not a directory"
  | .isDirectory => "[Errno 21] Is a directory"
  | .nameTooLong => "[Errno 36] File name too long"
  | .zeroCharacter => "embedded null byte"
  | .strayHalves found => found.message

/-- Whether a defect is that of a text which no file can have for a path. -/
def FileDefect.isOfText : FileDefect → Bool
  | .zeroCharacter => true
  | .strayHalves _ => true
  | _ => false

/-- Message for a file that cannot be used. -/
def FileError.message (error : FileError) : String :=
  if error.defect.isOfText then error.defect.description
  else error.defect.description ++ ": " ++ Text.quoted error.path.text

/-- Greatest number of octets of a name. -/
def longestName : Nat := 255

/-- Greatest number of octets of a path. -/
def longestPath : Nat := 4095

/-- What the system has against a path before it looks for a file. -/
def Path.defect? (path : Path) : Option FileDefect :=
  match Text.strayHalves? 0 path.text.toList with
  | some found => some (.strayHalves found)
  | none =>
    if path.text.toList.contains '\x00' then some .zeroCharacter
    else if Text.octetCount path.text > longestPath then some .nameTooLong
    else none

/-- Files with their texts, and directories. The working directory, those above it and the root
are always there. -/
structure Workspace where
  files : List (Place × String)
  directories : List Place
  deriving Repr

namespace Workspace

/-- A workspace without files. -/
def empty : Workspace := ⟨[], []⟩

/-- The name of the root in a place. -/
def rootName : String := "/"

/-- The place that a path starts at. -/
def start (path : Path) : Place := if path.root = "" then [] else [rootName]

/-- The place that one component leads to. -/
def enter (here : Place) (name : String) : Place :=
  if name = ".." then
    match here.getLast? with
    | none => [".."]
    | some last =>
      if last = ".." then here ++ [".."] else if last = rootName then here else here.dropLast
  else here ++ [name]

/-- Whether a place is a directory that every workspace has. -/
def isGiven (place : Place) : Bool := place.all (· == "..") || place == [rootName]

/-- Whether there is a directory at a place. -/
def isDirectoryAt (workspace : Workspace) (place : Place) : Bool :=
  isGiven place || workspace.directories.contains place

/-- The text of the file at a place. -/
def fileAt? (workspace : Workspace) (place : Place) : Option String :=
  (workspace.files.find? (·.1 == place)).map Prod.snd

/-- The place that components lead to; each but the last has to be a directory. -/
def follow (workspace : Workspace) : Place → List String → Except FileDefect Place
  | here, [] => .ok here
  | here, name :: rest =>
    if workspace.isDirectoryAt here then
      if Text.octetCount name > longestName then .error .nameTooLong
      else workspace.follow (enter here name) rest
    else if (workspace.fileAt? here).isSome then .error .notDirectory
    else .error .missing

/-- The place that a path leads to, which need not hold anything. -/
def placeOf (workspace : Workspace) (path : Path) : Except FileError Place :=
  match path.defect? with
  | some defect => .error ⟨defect, path⟩
  | none => (workspace.follow (start path) path.names).mapError (⟨·, path⟩)

/-- Whether a path leads to a directory. -/
def isDirectory (workspace : Workspace) (path : Path) : Bool :=
  match workspace.placeOf path with
  | .ok place => workspace.isDirectoryAt place
  | .error _ => false

/-- Whether a path leads to a file or a directory. -/
def contains (workspace : Workspace) (path : Path) : Bool :=
  match workspace.placeOf path with
  | .ok place => workspace.isDirectoryAt place || (workspace.fileAt? place).isSome
  | .error _ => false

/-- Whether a path leads to a file or a directory, for those who have to know: when a name is too
long there is no telling. -/
def probe (workspace : Workspace) (path : Path) : Except FileError Bool :=
  match workspace.placeOf path with
  | .error ⟨.nameTooLong, path⟩ => .error ⟨.nameTooLong, path⟩
  | _ => .ok (workspace.contains path)

/-- The text of the file that a path leads to. -/
def read (workspace : Workspace) (path : Path) : Except FileError String := do
  let place ← workspace.placeOf path
  if workspace.isDirectoryAt place then .error ⟨.isDirectory, path⟩
  else
    match workspace.fileAt? place with
    | some text => .ok text
    | none => .error ⟨.missing, path⟩

/-- The text of the file that a path leads to, if it can be read. -/
def text? (workspace : Workspace) (path : Path) : Option String :=
  match workspace.read path with
  | .ok text => some text
  | .error _ => none

/-- The places that components lead through, the last one included. -/
def placesAlong : Place → List String → List Place
  | _, [] => []
  | here, name :: rest => enter here name :: placesAlong (enter here name) rest

/-- Makes a directory and those above it. -/
def addDirectory (workspace : Workspace) (path : Path) : Workspace :=
  { workspace with directories := workspace.directories ++ placesAlong (start path) path.names }

/-- Puts a text at a place. -/
def put (workspace : Workspace) (place : Place) (text : String) : Workspace :=
  { workspace with files := (place, text) :: workspace.files.filter (·.1 != place) }

/-- A text that was put at a place is found there. -/
@[simp]
theorem fileAt?_put_self (workspace : Workspace) (place : Place) (text : String) :
    (workspace.put place text).fileAt? place = some text := by
  simp [fileAt?, put]

/-- Puts a file at a path and makes the directories that lead to it. -/
def add (workspace : Workspace) (path : Path) (text : String) : Workspace :=
  (workspace.addDirectory path.parent).put (path.names.foldl enter (start path)) text

/-- Whether there is a file at a place. -/
def isFileAt (workspace : Workspace) (place : Place) : Bool := (workspace.fileAt? place).isSome

/-- Makes a directory and those above it, none of which may be a file. -/
def makeDirectory (workspace : Workspace) (path : Path) : Except FileError Workspace :=
  if (placesAlong (start path) path.names.dropLast).any workspace.isFileAt then
    .error ⟨.notDirectory, path⟩
  else if (placesAlong (start path) path.names).any workspace.isFileAt then
    .error ⟨.alreadyThere, path⟩
  else .ok (workspace.addDirectory path)

/-- Writes a file, making the directories that lead to it. -/
def write (workspace : Workspace) (path : Path) (text : String) :
    Except FileError Workspace := do
  let made ← workspace.makeDirectory path.parent
  let place ← made.placeOf path
  if made.isDirectoryAt place then .error ⟨.isDirectory, path⟩
  else return workspace.add path text

/-- Removes a file; its directory stays. -/
def remove (workspace : Workspace) (path : Path) : Except FileError Workspace := do
  let place ← workspace.placeOf path
  if workspace.isDirectoryAt place then .error ⟨.isDirectory, path⟩
  else if (workspace.fileAt? place).isNone then .error ⟨.missing, path⟩
  else .ok { workspace with files := workspace.files.filter (·.1 != place) }

end Workspace

end TargetFeatures
