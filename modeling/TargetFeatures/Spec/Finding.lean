import TargetFeatures.Data.Scalar

/-!
# Findings of a validation

What a validation can find wrong or doubtful in a catalog description. A finding that is an error
keeps the catalog from being built or leaves a name that leads nowhere; a warning does not.
-/

namespace TargetFeatures

/-- One of the two alias tables. -/
inductive AliasKind where
  | cpu
  | extension
  deriving DecidableEq, Repr

/-- Something that is wrong or doubtful in a catalog description. Positions are those of the
entry in its list. -/
inductive Finding where
  | duplicateExtension (position : Nat) (name : String)
  | tooManyExtensions (count : Nat) (width : Int)
  | unknownInDependency (position : Nat) (name : String)
  | duplicateDependency (position : Nat) (earlier later : String)
  | cycle (names : List String)
  | duplicateArchitecture (position : Nat) (name : String)
  | undeclaredBase (position : Nat) (name base : String)
  | unknownInArchitecture (position : Nat) (architecture name : String)
  | duplicateProcessor (position : Nat) (name : String)
  | unknownArchitecture (position : Nat) (processor architecture : String)
  | unknownInProcessor (position : Nat) (processor name : String)
  | redundantDefault (position : Nat) (processor architecture name : String)
  | aliasTarget (table : AliasKind) (alternate name : String)
  | aliasShadowsName (table : AliasKind) (alternate : String)
  | unclosedDefaults (architecture : String) (missing : List String)
  deriving DecidableEq, Repr

namespace Finding

/-- The category of a finding. -/
def category : Finding → String
  | .duplicateExtension .. => "DUPLICATE_NAME"
  | .tooManyExtensions .. => "TOO_MANY_EXTENSIONS"
  | .unknownInDependency .. => "UNKNOWN_EXTENSION"
  | .duplicateDependency .. => "DUPLICATE_DEPENDENCY"
  | .cycle .. => "CYCLE"
  | .duplicateArchitecture .. => "DUPLICATE_NAME"
  | .undeclaredBase .. => "UNKNOWN_ARCHITECTURE"
  | .unknownInArchitecture .. => "UNKNOWN_EXTENSION"
  | .duplicateProcessor .. => "DUPLICATE_NAME"
  | .unknownArchitecture .. => "UNKNOWN_ARCHITECTURE"
  | .unknownInProcessor .. => "UNKNOWN_EXTENSION"
  | .redundantDefault .. => "REDUNDANT_DEFAULT"
  | .aliasTarget .. => "ALIAS_TARGET"
  | .aliasShadowsName .. => "ALIAS_SHADOWS_NAME"
  | .unclosedDefaults .. => "UNCLOSED_DEFAULTS"

/-- Whether a finding is an error and not only a warning. -/
def isError : Finding → Bool
  | .duplicateDependency .. => false
  | .redundantDefault .. => false
  | .aliasShadowsName .. => false
  | .unclosedDefaults .. => false
  | _ => true

/-- The word for how serious a finding is. -/
def severity (finding : Finding) : String := if finding.isError then "error" else "warning"

/-- The location of an entry of a list. -/
def entryLocation (list : String) (position : Nat) : String :=
  list ++ "[" ++ Scalar.intText position ++ "]"

/-- The location of an alias table. -/
def tableLocation : AliasKind → String
  | .cpu => "aliases.cpu"
  | .extension => "aliases.extension"

/-- Where a finding is. -/
def location : Finding → String
  | .duplicateExtension position _ => entryLocation "extensions" position
  | .tooManyExtensions .. => "extensions"
  | .unknownInDependency position _ => entryLocation "dependencies" position
  | .duplicateDependency position _ _ => entryLocation "dependencies" position
  | .cycle .. => "dependencies"
  | .duplicateArchitecture position _ => entryLocation "architectures" position
  | .undeclaredBase position _ _ => entryLocation "architectures" position
  | .unknownInArchitecture position _ _ => entryLocation "architectures" position
  | .duplicateProcessor position _ => entryLocation "processors" position
  | .unknownArchitecture position _ _ => entryLocation "processors" position
  | .unknownInProcessor position _ _ => entryLocation "processors" position
  | .redundantDefault position _ _ _ => entryLocation "processors" position
  | .aliasTarget table _ _ => tableLocation table
  | .aliasShadowsName table _ => tableLocation table
  | .unclosedDefaults architecture _ => "architectures." ++ architecture

/-- A name between apostrophes. -/
def named (name : String) : String := "'" ++ name ++ "'"

/-- What a finding says. -/
def message : Finding → String
  | .duplicateExtension _ name => "extension " ++ named name ++ " is declared more than once"
  | .tooManyExtensions count width =>
    Scalar.intText count ++ " extensions do not fit in a " ++ Scalar.intText width ++ "-bit set"
  | .unknownInDependency _ name =>
    "dependency references unknown extension " ++ named name
  | .duplicateDependency _ earlier later =>
    "dependency " ++ earlier ++ " -> " ++ later ++ " is listed more than once"
  | .cycle names => "cyclic dependencies involving: " ++ ", ".intercalate names
  | .duplicateArchitecture _ name =>
    "architecture " ++ named name ++ " is declared more than once"
  | .undeclaredBase _ name base =>
    "base architecture " ++ named base ++ " is not declared before " ++ named name
  | .unknownInArchitecture _ architecture name =>
    "architecture " ++ named architecture ++ " references unknown extension " ++ named name
  | .duplicateProcessor _ name => "processor " ++ named name ++ " is declared more than once"
  | .unknownArchitecture _ processor architecture =>
    "processor " ++ named processor ++ " references unknown architecture " ++ named architecture
  | .unknownInProcessor _ processor name =>
    "processor " ++ named processor ++ " references unknown extension " ++ named name
  | .redundantDefault _ _ architecture name =>
    named name ++ " is already a default of " ++ architecture
  | .aliasTarget _ alternate name =>
    "alias " ++ named alternate ++ " points to unknown name " ++ named name
  | .aliasShadowsName _ alternate =>
    "alias " ++ named alternate ++ " hides the canonical name " ++ named alternate
  | .unclosedDefaults architecture missing =>
    "defaults of " ++ architecture ++ " omit prerequisites: " ++ ", ".intercalate missing

/-- What to do about a finding. -/
def suggestion : Finding → Option String
  | .tooManyExtensions .. => some "Remove unused extensions or widen the extension set"
  | .duplicateDependency .. => some "Remove the duplicate entry"
  | .redundantDefault _ processor _ name => some ("Remove " ++ named name ++ " from " ++ processor)
  | .unclosedDefaults .. => some "Add the prerequisites to the architecture defaults"
  | _ => none

/-- The name that a finding is about. -/
def value : Finding → Option String
  | .duplicateExtension _ name => some name
  | .unknownInDependency _ name => some name
  | .duplicateArchitecture _ name => some name
  | .undeclaredBase _ _ base => some base
  | .unknownInArchitecture _ _ name => some name
  | .duplicateProcessor _ name => some name
  | .unknownArchitecture _ _ architecture => some architecture
  | .unknownInProcessor _ _ name => some name
  | .redundantDefault _ _ _ name => some name
  | .aliasTarget _ alternate _ => some alternate
  | .aliasShadowsName _ alternate => some alternate
  | _ => none

end Finding

end TargetFeatures
