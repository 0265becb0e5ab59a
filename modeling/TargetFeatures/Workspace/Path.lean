import TargetFeatures.Text.Quoted

/-!
# Paths

A path is what remains of its text after doubled separators and components of a single dot are
dropped, since neither changes what it names. A component of two dots is kept: what it names
depends on the directories that are there.
-/

namespace TargetFeatures

/-- A path to a file or directory: the separators it starts with, and its components. -/
structure Path where
  root : String
  names : List String
  deriving DecidableEq, Repr

namespace Path

/-- The separators that the root of a path is written with: two of them are a root of their own,
and any other number is the same as one. -/
def rootOf (text : String) : String :=
  match text.toList.takeWhile (· == '/') with
  | [] => ""
  | ['/', '/'] => "//"
  | _ => "/"

/-- Whether a component names a step away from the directory it stands in. -/
def isStep (name : String) : Bool := name ≠ "" && name ≠ "."

/-- The path that a text denotes. -/
def ofText (text : String) : Path :=
  ⟨rootOf text, ((text.toList.splitOn '/').map String.ofList).filter isStep⟩

/-- The text of a path; the working directory is a single dot. -/
def text (path : Path) : String :=
  if path.root = "" ∧ path.names = [] then "."
  else path.root ++ "/".intercalate path.names

/-- The last component of a path. -/
def name (path : Path) : String := path.names.getLastD ""

/-- The directory that a path is in. -/
def parent (path : Path) : Path := { path with names := path.names.dropLast }

end Path

end TargetFeatures
