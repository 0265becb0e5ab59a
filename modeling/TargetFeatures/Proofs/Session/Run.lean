import TargetFeatures.Proofs.Catalog.Mask
import TargetFeatures.Proofs.Session.Propagation
import TargetFeatures.Session.Resolver

/-!
# Runs of a session

An operation is anything that changes a session: a decision about an id, a modifier, or the defaults
of an architecture or a processor. A run performs operations one after the other. One that fails
leaves what it did before, and the run goes on.

Every operation works by recording a base architecture and by decisions about single ids. A property
of states that these two keep is therefore kept by every operation and every run, failing ones
included (`perform_preserves`, `run_preserves`).
-/

namespace TargetFeatures.Session

/-- Something that is done to a session. -/
inductive Operation where
  | enable (id : Int)
  | disable (id : Int)
  | modifier (token : String)
  | archDefaults (architecture : Architecture)
  | cpuDefaults (processor : Processor)
  deriving DecidableEq, Repr

/-- The step that an operation takes. -/
def perform (session : Session) : Operation → Step
  | .enable id => session.enable id
  | .disable id => session.disable id
  | .modifier token => (session.applyModifier token).2
  | .archDefaults architecture => session.addArchDefaults architecture
  | .cpuDefaults processor => session.addCpuDefaults processor

/-- The session after an operation, whether or not it failed. -/
def apply (session : Session) (operation : Operation) : Session :=
  { session with state := (session.perform operation).state }

/-- The session after a list of operations. -/
def run (session : Session) : List Operation → Session
  | [] => session
  | operation :: rest => (session.apply operation).run rest

@[simp]
theorem run_nil (session : Session) : session.run [] = session := rfl

@[simp]
theorem run_cons (session : Session) (operation : Operation) (rest : List Operation) :
    session.run (operation :: rest) = (session.apply operation).run rest := rfl

theorem run_append (session : Session) (earlier later : List Operation) :
    session.run (earlier ++ later) = (session.run earlier).run later := by
  induction earlier generalizing session with
  | nil => rfl
  | cons operation rest ih => exact ih (session.apply operation)

@[simp]
theorem catalog_run (session : Session) (operations : List Operation) :
    (session.run operations).catalog = session.catalog := by
  induction operations generalizing session with
  | nil => rfl
  | cons operation rest ih => exact ih (session.apply operation)

@[simp]
theorem negation_run (session : Session) (operations : List Operation) :
    (session.run operations).negation = session.negation := by
  induction operations generalizing session with
  | nil => rfl
  | cons operation rest ih => exact ih (session.apply operation)

theorem eq_of_start? {catalog : ExtensionCatalog} {negation : String} {session : Session}
    (started : start? catalog negation = some session) : session = ⟨catalog, negation, .start⟩ := by
  rw [start?] at started
  split at started
  · cases started
  · exact (Option.some.inj started).symm

namespace Operation

/-- Whether an operation only names ids of the catalog. -/
def OnCatalog (catalog : ExtensionCatalog) : Operation → Prop
  | .enable id => 0 ≤ id ∧ id < catalog.size
  | .disable id => 0 ≤ id ∧ id < catalog.size
  | .modifier _ => True
  | .archDefaults architecture => Mask.isBelow catalog.size architecture.defaults = true
  | .cpuDefaults processor => Mask.isBelow catalog.size processor.implied = true

instance (catalog : ExtensionCatalog) : DecidablePred (OnCatalog catalog)
  | .enable id => inferInstanceAs (Decidable (0 ≤ id ∧ id < catalog.size))
  | .disable id => inferInstanceAs (Decidable (0 ≤ id ∧ id < catalog.size))
  | .modifier _ => inferInstanceAs (Decidable True)
  | .archDefaults architecture =>
    inferInstanceAs (Decidable (Mask.isBelow catalog.size architecture.defaults = true))
  | .cpuDefaults processor =>
    inferInstanceAs (Decidable (Mask.isBelow catalog.size processor.implied = true))

/-- The architecture that an operation records as the base. -/
def base? : Operation → Option Architecture
  | .archDefaults architecture => some architecture
  | .cpuDefaults processor => some processor.architecture
  | _ => none

end Operation

/-- Whether a session is reached from its start by operations on ids of the catalog. -/
def Reachable (catalog : ExtensionCatalog) (session : Session) : Prop :=
  ∃ negation started operations, start? catalog negation = some started ∧
    (∀ operation ∈ operations, operation.OnCatalog catalog) ∧ session = started.run operations

theorem Reachable.run {catalog : ExtensionCatalog} {session : Session}
    (reachable : Reachable catalog session) {operations : List Operation}
    (onCatalog : ∀ operation ∈ operations, operation.OnCatalog catalog) :
    Reachable catalog (session.run operations) := by
  rcases reachable with ⟨negation, fresh, earlier, started, earlierOnCatalog, rfl⟩
  refine ⟨negation, fresh, earlier ++ operations, started, ?_, (run_append _ _ _).symm⟩
  intro operation member
  rcases List.mem_append.mp member with old | new
  · exact earlierOnCatalog operation old
  · exact onCatalog operation new

/-- A session on the small catalog, and an architecture for it with `simd` and `crc`. -/
def small : Session := ⟨.small, "no-", .start⟩

theorem started_small : start? .small "no-" = some small := rfl

def smallArchitecture : Architecture := ⟨"v8a", 8, 0, .application, "+v8a", 0b1010⟩

/-! ## What all operations keep -/

theorem onId_natCast (id : Nat) (step : Nat → State → Step) (state : State) :
    onId id step state = step id state := by
  rw [onId, if_neg (Int.not_lt.mpr (Int.natCast_nonneg id)), Int.toNat_natCast]

theorem applyModifier_eq (session : Session) (token : String) :
    session.applyModifier token =
      let name := ExtensionCatalog.splitToken session.negation token
      match session.catalog.parse? name.2 with
      | none => (false, ⟨session.state, [.unknownModifier token], none⟩)
      | some id =>
        (true, if name.1 then State.disable session.catalog id session.state
          else State.enable session.catalog id session.state) := rfl

namespace State

variable {catalog : ExtensionCatalog} {state : State}

/-- States with the same members of both sets and the same base architecture are equal. -/
theorem eq_of_members {other : State} (on : ∀ id, state.IsOn id ↔ other.IsOn id)
    (touched : ∀ id, state.IsTouched id ↔ other.IsTouched id)
    (baseArch : state.baseArch = other.baseArch) : state = other := by
  cases state
  cases other
  simp only [mk.injEq]
  exact ⟨Mask.eq_iff.mpr on, Mask.eq_iff.mpr touched, baseArch⟩

/-- The number below which the defaults of a written set are looked for. -/
def seedBound (catalog : ExtensionCatalog) (state : State) (mask : Int) : Nat :=
  max catalog.size (max (Mask.reach mask) (Mask.reach state.enabled)) + 1

theorem size_le_seedBound (mask : Int) : catalog.size ≤ seedBound catalog state mask := by
  rw [seedBound]
  omega

theorem state_seed (architecture : Architecture) (mask : Int) :
    (state.seed catalog architecture mask).state =
      (enableEach catalog (Mask.idsBelow (seedBound catalog state mask) mask)
        { state with baseArch := some architecture }).state := rfl

theorem failure_seed (architecture : Architecture) (mask : Int) :
    (state.seed catalog architecture mask).failure =
      (enableEach catalog (Mask.idsBelow (seedBound catalog state mask) mask)
        { state with baseArch := some architecture }).failure := rfl

theorem enableEach_preserves (property : State → Prop)
    (keeps : ∀ id state, property state → property (enable catalog id state).state)
    (ids : List Nat) (holds : property state) : property (enableEach catalog ids state).state := by
  induction ids generalizing state with
  | nil => exact holds
  | cons id rest ih =>
      have next := keeps id state holds
      rw [enableEach, Step.andThen]
      split
      · exact next
      · exact ih next

end State

/-- An operation takes at most one decision about an id, or it records a base architecture and
enables the extensions of a list. -/
theorem perform_cases (session : Session) (operation : Operation) :
    (operation.base? = none ∧
      ((session.perform operation).state = session.state ∨
        (∃ id, (session.perform operation).state =
          (State.enable session.catalog id session.state).state) ∨
        ∃ id, (session.perform operation).state =
          (State.disable session.catalog id session.state).state)) ∨
    ∃ architecture ids, operation.base? = some architecture ∧
      (session.perform operation).state = (State.enableEach session.catalog ids
        { session.state with baseArch := some architecture }).state := by
  cases operation with
  | enable id =>
      refine Or.inl ⟨rfl, ?_⟩
      rw [perform, enable, onId]
      split
      · exact Or.inl rfl
      · exact Or.inr (Or.inl ⟨_, rfl⟩)
  | disable id =>
      refine Or.inl ⟨rfl, ?_⟩
      rw [perform, disable, onId]
      split
      · exact Or.inl rfl
      · exact Or.inr (Or.inr ⟨_, rfl⟩)
  | modifier token =>
      refine Or.inl ⟨rfl, ?_⟩
      rw [perform, applyModifier_eq]
      dsimp only
      split
      · exact Or.inl rfl
      · split
        · exact Or.inr (Or.inr ⟨_, rfl⟩)
        · exact Or.inr (Or.inl ⟨_, rfl⟩)
  | archDefaults architecture => exact Or.inr ⟨architecture, _, rfl, State.state_seed _ _⟩
  | cpuDefaults processor => exact Or.inr ⟨processor.architecture, _, rfl, State.state_seed _ _⟩

section

variable (property : State → Prop) {session : Session}
  (onEnable : ∀ id state, property state →
    property (State.enable session.catalog id state).state)
  (onDisable : ∀ id state, property state →
    property (State.disable session.catalog id state).state)
  (onBase : ∀ architecture state, property state →
    property { state with baseArch := some architecture })

include onEnable onDisable onBase

theorem perform_preserves (operation : Operation) (holds : property session.state) :
    property (session.perform operation).state := by
  rcases perform_cases session operation with
    ⟨_, same | ⟨id, same⟩ | ⟨id, same⟩⟩ | ⟨architecture, ids, _, same⟩
  · rwa [same]
  · rw [same]
    exact onEnable id _ holds
  · rw [same]
    exact onDisable id _ holds
  · rw [same]
    exact State.enableEach_preserves property onEnable ids (onBase architecture _ holds)

theorem run_preserves (operations : List Operation) (holds : property session.state) :
    property (session.run operations).state := by
  induction operations generalizing session with
  | nil => exact holds
  | cons operation rest ih =>
      exact ih onEnable onDisable
        (perform_preserves property onEnable onDisable onBase operation holds)

end

end TargetFeatures.Session
