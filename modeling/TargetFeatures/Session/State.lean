import TargetFeatures.Catalog.Models

/-!
# The state of a session

A session keeps two sets of extensions: those that are enabled, and those that were touched, which
means that a decision about them was made at some point. Enabling an extension enables everything
it requires, and disabling one disables everything that requires it. Both walk along the
dependencies: the extensions still to be looked at form a list, and a visit to one that has to
change puts its neighbours in front of that list.

A step returns the state even when it fails, because what was done before the failure stays done.
It also returns the events of the step in order.
-/

namespace TargetFeatures.Session

/-- What a session has decided so far. -/
structure State where
  enabled : Nat
  touched : Nat
  /-- The architecture whose defaults were added last. -/
  baseArch : Option Architecture
  deriving DecidableEq, Repr, Inhabited

/-- The state before the first decision. -/
def State.start : State := ⟨0, 0, none⟩

/-- Something that a session did. -/
inductive Event where
  | enabled (name : String)
  | disabled (name : String)
  | unknownModifier (token : String)
  | baseChanged (before after : String)
  deriving DecidableEq, Repr

/-- Message for an event. -/
def Event.message : Event → String
  | .enabled name => "Enabled " ++ name
  | .disabled name => "Disabled " ++ name
  | .unknownModifier token => "Unknown extension modifier '" ++ token ++ "'"
  | .baseChanged before after =>
    "Base architecture changed from " ++ before ++ " to " ++ after

/-- Why a step on ids fails. -/
inductive IdError where
  /-- The id is negative. -/
  | negative
  /-- The id is not the id of an extension. -/
  | unknown
  deriving DecidableEq, Repr

/-- Message for a failed step. -/
def IdError.message : IdError → String
  | .negative => "negative shift count"
  | .unknown => "tuple index out of range"

/-- Result of a step: the state after it, the events, and the failure that ended it early. -/
structure Step where
  state : State
  events : List Event
  failure : Option IdError
  deriving DecidableEq, Repr

namespace Step

/-- The step that does nothing. -/
def skip (state : State) : Step := ⟨state, [], none⟩

/-- The same step after an event. -/
def after (event : Event) (step : Step) : Step := { step with events := event :: step.events }

/-- A step followed by another one, unless it fails. -/
def andThen (step : Step) (next : State → Step) : Step :=
  match step.failure with
  | some _ => step
  | none =>
    let following := next step.state
    { following with events := step.events ++ following.events }

end Step

namespace State

/-- The state after an extension was touched. -/
def touch (state : State) (id : Nat) : State :=
  { state with touched := state.touched ||| Mask.single id }

/-- The state after an extension was touched and switched on. -/
def switchOn (state : State) (id : Nat) : State :=
  { state.touch id with enabled := state.enabled ||| Mask.single id }

/-- The state after an extension was touched and switched off. -/
def switchOff (state : State) (id : Nat) : State :=
  { state.touch id with enabled := Mask.difference state.enabled (Mask.single id) }

/-- Number of ids below a bound that have a property. -/
def countBelow (bound : Nat) (property : Nat → Bool) : Nat := (List.range bound).countP property

theorem countBelow_lt {bound : Nat} {before after : Nat → Bool} {id : Nat} (below : id < bound)
    (was : before id = true) (isNot : after id = false)
    (subset : ∀ other, after other = true → before other = true) :
    countBelow bound after < countBelow bound before := by
  have split : List.range bound = List.range id ++ id :: List.range' (id + 1) (bound - id - 1) := by
    have sum : bound = id + (1 + (bound - id - 1)) := by omega
    conv => lhs; rw [sum, List.range_eq_range', List.range'_append_1.symm]
    rw [List.range_eq_range', Nat.zero_add, Nat.add_comm 1, List.range'_succ]
  have left := List.countP_mono_left (l := List.range id) (p := after) (q := before)
    fun other _ => subset other
  have right := List.countP_mono_left (l := List.range' (id + 1) (bound - id - 1)) (p := after)
    (q := before) fun other _ => subset other
  simp only [countBelow, split, List.countP_append, List.countP_cons, was, isNot]
  simp only [if_true, Bool.false_eq_true, if_false]
  omega

theorem testBit_switchOn (state : State) (id other : Nat) :
    (state.switchOn id).enabled.testBit other =
      (state.enabled.testBit other || decide (id = other)) := by
  simp [switchOn, Nat.testBit_or, Mask.testBit_single]

theorem testBit_switchOff (state : State) (id other : Nat) :
    (state.switchOff id).enabled.testBit other =
      (state.enabled.testBit other && !decide (id = other)) := by
  simp [switchOff, Mask.testBit_difference, Mask.testBit_single]

theorem lt_size_of_get? {catalog : ExtensionCatalog} {id : Nat} {extension : Extension}
    (found : catalog.get? id = some extension) : id < catalog.size :=
  (List.getElem?_eq_some_iff.mp found).1

/-- Enables the extensions of a list and everything they require. Of the extensions that are not
enabled yet, each one is visited once, before those that it requires. The walk goes as deep as the
dependencies do: the bound that a call stack sets, which the readers of files have, is left out. -/
def enableAll (catalog : ExtensionCatalog) : List Nat → State → Step
  | [], state => .skip state
  | id :: pending, state =>
    if _on : state.enabled.testBit id then enableAll catalog pending state
    else
      match _found : catalog.get? id with
      | none => ⟨state.switchOn id, [], some .unknown⟩
      | some extension =>
        (enableAll catalog (catalog.prerequisites id ++ pending) (state.switchOn id)).after
          (.enabled extension.name)
termination_by pending state =>
  (countBelow catalog.size fun id => !state.enabled.testBit id, pending.length)
decreasing_by
  · exact Prod.Lex.right _ (by simp)
  · refine Prod.Lex.left _ _ (countBelow_lt (lt_size_of_get? _found) ?_ ?_ ?_)
    · simpa using _on
    · simp [testBit_switchOn]
    · intro other still
      simp only [testBit_switchOn, Bool.not_or, Bool.and_eq_true] at still
      exact still.1

/-- Disables the extensions of a list and everything that requires them. Of the extensions that
are enabled, each one is visited once, before those that require it. As for `enableAll`, no call
stack bounds the depth of the walk. -/
def disableAll (catalog : ExtensionCatalog) : List Nat → State → Step
  | [], state => .skip state
  | id :: pending, state =>
    if _on : state.enabled.testBit id then
      match _found : catalog.get? id with
      | none => ⟨state.switchOff id, [], some .unknown⟩
      | some extension =>
        (disableAll catalog (catalog.dependents id ++ pending) (state.switchOff id)).after
          (.disabled extension.name)
    else disableAll catalog pending state
termination_by pending state =>
  (countBelow catalog.size fun id => state.enabled.testBit id, pending.length)
decreasing_by
  · refine Prod.Lex.left _ _ (countBelow_lt (lt_size_of_get? _found) _on ?_ ?_)
    · simp [testBit_switchOff]
    · intro other still
      simp only [testBit_switchOff, Bool.and_eq_true] at still
      exact still.1
  · exact Prod.Lex.right _ (by simp)

/-- Enables an extension and everything it requires. The extension itself is touched in any
case. -/
def enable (catalog : ExtensionCatalog) (id : Nat) (state : State) : Step :=
  enableAll catalog [id] (state.touch id)

/-- Disables an extension and everything that requires it. The extension itself is touched in any
case. -/
def disable (catalog : ExtensionCatalog) (id : Nat) (state : State) : Step :=
  disableAll catalog [id] (state.touch id)

/-- Enables the extensions of a list one after the other. -/
def enableEach (catalog : ExtensionCatalog) : List Nat → State → Step
  | [], state => .skip state
  | id :: rest, state => (enable catalog id state).andThen (enableEach catalog rest)

/-- Records an architecture as the base architecture. -/
def setBase (architecture : Architecture) (state : State) : Step :=
  let events := match state.baseArch with
    | none => []
    | some before =>
      if before.name = architecture.name then []
      else [.baseChanged before.name architecture.name]
  ⟨{ state with baseArch := some architecture }, events, none⟩

/-- Records an architecture as the base architecture and enables a written set of extensions, as
far as that succeeds. It fails at the first id of the set that is neither an extension nor enabled
already; an infinite set has such an id beyond all enabled ones, so no id further on matters. -/
def seed (catalog : ExtensionCatalog) (architecture : Architecture) (mask : Int)
    (state : State) : Step :=
  let bound := max catalog.size (max (Mask.reach mask) (Mask.reach state.enabled)) + 1
  (state.setBase architecture).andThen (enableEach catalog (Mask.idsBelow bound mask))

end State

end TargetFeatures.Session
