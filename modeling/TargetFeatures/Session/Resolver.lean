import TargetFeatures.Session.State

/-!
# Sessions

A session resolves decisions about the extensions of one catalog. Its tokens are names of
extensions, and names after the negation prefix, which is not empty. The feature list has one
token for each touched extension in the order of the catalog.
-/

namespace TargetFeatures

/-- A session on a catalog. -/
structure Session where
  catalog : ExtensionCatalog
  negation : String
  state : Session.State

namespace Session

/-- A session before its first decision; the negation prefix must not be empty. -/
def start? (catalog : ExtensionCatalog) (negation : String) : Option Session :=
  if negation = "" then none else some ⟨catalog, negation, .start⟩

/-- Message for an empty negation prefix. -/
def emptyNegationMessage : String := "negation_prefix must be a non-empty string"

/-- Runs a step on an id, which must not be negative. -/
def onId (id : Int) (step : Nat → State → Step) (state : State) : Step :=
  if id < 0 then ⟨state, [], some .negative⟩ else step id.toNat state

/-- Enables the extension with an id. -/
def enable (session : Session) (id : Int) : Step :=
  onId id (State.enable session.catalog) session.state

/-- Disables the extension with an id. -/
def disable (session : Session) (id : Int) : Step :=
  onId id (State.disable session.catalog) session.state

/-- Adds the defaults of an architecture. -/
def addArchDefaults (session : Session) (architecture : Architecture) : Step :=
  session.state.seed session.catalog architecture architecture.defaults

/-- Adds the defaults of a processor and its architecture. -/
def addCpuDefaults (session : Session) (processor : Processor) : Step :=
  session.state.seed session.catalog processor.architecture processor.implied

/-- Applies a modifier: a name enables an extension and a negated name disables it. The result
says whether the name is known; an unknown one changes nothing. -/
def applyModifier (session : Session) (token : String) : Bool × Step :=
  let (negated, name) := ExtensionCatalog.splitToken session.negation token
  match session.catalog.parse? name with
  | none => (false, ⟨session.state, [.unknownModifier token], none⟩)
  | some id =>
    (true, if negated then State.disable session.catalog id session.state
      else State.enable session.catalog id session.state)

/-- Whether the extension with an id is enabled. -/
def isEnabledId (session : Session) (id : Int) : Except IdError Bool :=
  if id < 0 then .error .negative else .ok (session.state.enabled.testBit id.toNat)

/-- Whether the extension with a name is enabled; an unknown name never is. -/
def isEnabledName (session : Session) (name : String) : Bool :=
  match session.catalog.parse? name with
  | none => false
  | some id => session.state.enabled.testBit id

/-- The names of the enabled extensions in the order of the catalog. -/
def enabledNames? (session : Session) : Option (List String) :=
  session.catalog.names? session.state.enabled

/-- The token of an extension in the feature list. -/
def featureToken (session : Session) (id : Nat) : Option String :=
  (session.catalog.get? id).map fun extension =>
    if session.state.enabled.testBit id then extension.feature else extension.negFeature

/-- The feature tokens of all touched extensions in the order of the catalog; none when something
beyond the catalog was touched. -/
def featureList? (session : Session) : Option (List String) :=
  let size := session.catalog.size
  if Mask.isBelow size session.state.touched then
    some ((Mask.idsBelow size session.state.touched).filterMap session.featureToken)
  else none

end Session

end TargetFeatures
