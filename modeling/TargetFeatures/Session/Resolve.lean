import TargetFeatures.Session.Resolver

/-!
# Resolving a target

`resolve` runs a whole session: the defaults of an architecture first, then those of a processor,
then the modifiers in order. When both an architecture and a processor are given, the
architecture of the processor is the base architecture in the end.
-/

namespace TargetFeatures.Session

/-- What a resolution is asked for. -/
structure Request where
  cpu : Option String
  arch : Option String
  modifiers : List String
  deriving DecidableEq, Repr, Inhabited

/-- Why a resolution fails. -/
inductive ResolveError where
  | emptyNegation
  | unknownArchitecture (name : String)
  | unknownProcessor (name : String)
  | unknownModifier (token : String)
  | badId (error : IdError)
  deriving DecidableEq, Repr

namespace ResolveError

/-- What an unknown target was meant to be. -/
def targetKind : ResolveError → String
  | .unknownArchitecture _ => "architecture"
  | _ => "processor"

/-- Message for a failed resolution. -/
def message : ResolveError → String
  | .emptyNegation => emptyNegationMessage
  | .unknownArchitecture name => "Unknown architecture '" ++ name ++ "'"
  | .unknownProcessor name => "Unknown processor '" ++ name ++ "'"
  | .unknownModifier token => "Unknown extension modifier '" ++ token ++ "'"
  | .badId error => error.message

end ResolveError

/-- The session after a step, unless the step failed. -/
def continue_ (session : Session) (step : Step) : Except ResolveError Session :=
  match step.failure with
  | some error => .error (.badId error)
  | none => .ok { session with state := step.state }

/-- The architecture with a name or, failing that, with a feature flag. -/
def archTarget? (catalog : ModelCatalog) (name : String) : Option Architecture :=
  (catalog.parseArch? name).or (catalog.findBySubArch? name)

/-- Adds the defaults of the requested architecture. -/
def seedArch (catalog : ModelCatalog) (arch : Option String) (session : Session) :
    Except ResolveError Session :=
  match arch with
  | none => .ok session
  | some name =>
    match archTarget? catalog name with
    | none => .error (.unknownArchitecture name)
    | some architecture => session.continue_ (session.addArchDefaults architecture)

/-- Adds the defaults of the requested processor. -/
def seedCpu (catalog : ModelCatalog) (cpu : Option String) (session : Session) :
    Except ResolveError Session :=
  match cpu with
  | none => .ok session
  | some name =>
    match catalog.parseCpu? name with
    | none => .error (.unknownProcessor name)
    | some processor => session.continue_ (session.addCpuDefaults processor)

/-- Applies modifiers up to the first unknown one. -/
def applyModifiers : List String → Session → Except ResolveError Session
  | [], session => .ok session
  | token :: rest, session =>
    match session.applyModifier token with
    | (false, _) => .error (.unknownModifier token)
    | (true, step) => do applyModifiers rest (← session.continue_ step)

/-- Runs the session that a request describes. -/
def resolve (catalog : ModelCatalog) (negation : String) (request : Request) :
    Except ResolveError Session :=
  match start? catalog.extensions negation with
  | none => .error .emptyNegation
  | some session => do
    let session ← seedArch catalog request.arch session
    let session ← seedCpu catalog request.cpu session
    applyModifiers request.modifiers session

end TargetFeatures.Session
