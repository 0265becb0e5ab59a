import TargetFeatures.Proofs.Catalog.Naming
import TargetFeatures.Proofs.Session.Coherence

/-!
# The last decision wins

What a session ends with, said without its propagation: the operations amount to a list of decisions
about single ids, and an extension is enabled when some decision enables it, directly or as a
prerequisite, and no later one disables it, directly or as a dependent. `Reflects` is this
description of a state. One decision extends it, and so does every operation on ids of the catalog.
-/

namespace TargetFeatures.Session

/-- A decision about one extension. -/
inductive Decision where
  | enable (id : Nat)
  | disable (id : Nat)
  deriving DecidableEq, Repr

namespace Decision

variable {catalog : ExtensionCatalog} {decisions : List Decision} {id chosen : Nat}

/-- Whether some decision enables an extension and no later one disables it. -/
def StaysOn (catalog : ExtensionCatalog) (decisions : List Decision) (id : Nat) : Prop :=
  ∃ before chosen after, decisions = before ++ enable chosen :: after ∧
    catalog.Ancestor chosen id ∧
    ∀ other, disable other ∈ after → ¬catalog.Descendant other id

/-- Whether some decision enables an extension, or disables that very extension. -/
def Concerns (catalog : ExtensionCatalog) (decisions : List Decision) (id : Nat) : Prop :=
  (∃ chosen, enable chosen ∈ decisions ∧ catalog.Ancestor chosen id) ∨ disable id ∈ decisions

theorem not_staysOn_nil : ¬StaysOn catalog [] id := by
  rintro ⟨before, chosen, after, split, _⟩
  simp at split

theorem not_concerns_nil : ¬Concerns catalog [] id := by
  simp [Concerns]

theorem staysOn_append_enable :
    StaysOn catalog (decisions ++ [enable chosen]) id ↔
      StaysOn catalog decisions id ∨ catalog.Ancestor chosen id := by
  constructor
  · rintro ⟨before, winner, after, split, reached, undisturbed⟩
    rcases append_singleton_eq_iff.mp split with ⟨rfl, rfl, same⟩ | ⟨rest, rfl, rfl⟩
    · rw [enable.injEq] at same
      exact Or.inr (same ▸ reached)
    · exact Or.inl ⟨before, winner, rest, rfl, reached, fun other member =>
        undisturbed other (List.mem_append_left _ member)⟩
  · rintro (⟨before, winner, after, rfl, reached, undisturbed⟩ | reached)
    · refine ⟨before, winner, after ++ [enable chosen], by simp, reached, fun other member => ?_⟩
      rcases List.mem_append.mp member with old | new
      · exact undisturbed other old
      · simp at new
    · exact ⟨decisions, chosen, [], rfl, reached, fun _ member => absurd member List.not_mem_nil⟩

theorem staysOn_append_disable :
    StaysOn catalog (decisions ++ [disable chosen]) id ↔
      StaysOn catalog decisions id ∧ ¬catalog.Descendant chosen id := by
  constructor
  · rintro ⟨before, winner, after, split, reached, undisturbed⟩
    rcases append_singleton_eq_iff.mp split with ⟨_, _, same⟩ | ⟨rest, rfl, rfl⟩
    · cases same
    · exact ⟨⟨before, winner, rest, rfl, reached, fun other member =>
        undisturbed other (List.mem_append_left _ member)⟩, undisturbed chosen (by simp)⟩
  · rintro ⟨⟨before, winner, after, rfl, reached, undisturbed⟩, apart⟩
    refine ⟨before, winner, after ++ [disable chosen], by simp, reached, fun other member => ?_⟩
    rcases List.mem_append.mp member with old | new
    · exact undisturbed other old
    · simp only [List.mem_singleton, disable.injEq] at new
      exact new ▸ apart

theorem concerns_append_enable :
    Concerns catalog (decisions ++ [enable chosen]) id ↔
      Concerns catalog decisions id ∨ catalog.Ancestor chosen id := by
  simp only [Concerns, List.mem_append, List.mem_singleton, enable.injEq, reduceCtorEq, or_false,
    or_and_right, exists_or, exists_eq_left]
  exact or_right_comm

theorem concerns_append_disable :
    Concerns catalog (decisions ++ [disable chosen]) id ↔
      Concerns catalog decisions id ∨ id = chosen := by
  simp only [Concerns, List.mem_append, List.mem_singleton, disable.injEq, reduceCtorEq, or_false,
    or_assoc]

end Decision

/-- The decisions that an operation on ids of the catalog amounts to. -/
def Operation.decisions (catalog : ExtensionCatalog) (negation : String) :
    Operation → List Decision
  | .enable id => [.enable id.toNat]
  | .disable id => [.disable id.toNat]
  | .modifier token =>
    let (negated, name) := ExtensionCatalog.splitToken negation token
    match catalog.parse? name with
    | none => []
    | some id => [if negated then .disable id else .enable id]
  | .archDefaults architecture =>
    (Mask.idsBelow catalog.size architecture.defaults).map .enable
  | .cpuDefaults processor => (Mask.idsBelow catalog.size processor.implied).map .enable

/-! ## States as decisions describe them -/

namespace State

variable {catalog : ExtensionCatalog} {decisions : List Decision} {state : State}

/-- Whether the sets of a state are those that a list of decisions describes. -/
structure Reflects (catalog : ExtensionCatalog) (decisions : List Decision) (state : State) :
    Prop where
  coherent : state.Coherent catalog
  isOn : ∀ id, state.IsOn id ↔ Decision.StaysOn catalog decisions id
  isTouched : ∀ id, state.IsTouched id ↔ Decision.Concerns catalog decisions id

theorem reflects_start : start.Reflects catalog [] where
  coherent := coherent_start
  isOn _ := by simp [Decision.not_staysOn_nil]
  isTouched _ := by simp [Decision.not_concerns_nil]

theorem Reflects.enable (reflects : state.Reflects catalog decisions) (accepted : catalog.Accepted)
    (id : Nat) : (enable catalog id state).state.Reflects catalog (decisions ++ [.enable id]) where
  coherent := reflects.coherent.enable accepted id
  isOn other := by
    rw [isOn_enable accepted reflects.coherent, Decision.staysOn_append_enable, reflects.isOn]
  isTouched other := by
    rw [isTouched_enable accepted reflects.coherent, Decision.concerns_append_enable,
      reflects.isTouched]

theorem Reflects.disable (reflects : state.Reflects catalog decisions) (accepted : catalog.Accepted)
    (id : Nat) :
    (disable catalog id state).state.Reflects catalog (decisions ++ [.disable id]) where
  coherent := reflects.coherent.disable accepted id
  isOn other := by
    rw [isOn_disable accepted reflects.coherent, Decision.staysOn_append_disable, reflects.isOn]
  isTouched other := by
    rw [isTouched_disable accepted reflects.coherent, Decision.concerns_append_disable,
      reflects.isTouched]

theorem Reflects.enableEach (reflects : state.Reflects catalog decisions)
    (accepted : catalog.Accepted) {ids : List Nat} (below : ∀ id ∈ ids, id < catalog.size) :
    (enableEach catalog ids state).failure = none ∧
      (enableEach catalog ids state).state.Reflects catalog (decisions ++ ids.map .enable) := by
  induction ids generalizing state decisions with
  | nil => simpa [State.enableEach, Step.skip] using reflects
  | cons id rest ih =>
      have finished : (State.enable catalog id state).failure = none :=
        failure_enable_of_lt accepted (below id List.mem_cons_self)
      have following := ih (reflects.enable accepted id)
        fun other member => below other (List.mem_cons_of_mem _ member)
      rw [State.enableEach, Step.andThen, finished]
      simpa using following

theorem Reflects.seed (reflects : state.Reflects catalog decisions) (accepted : catalog.Accepted)
    (architecture : Architecture) {mask : Int} (below : Mask.isBelow catalog.size mask = true) :
    (state.seed catalog architecture mask).failure = none ∧
      (state.seed catalog architecture mask).state.Reflects catalog
        (decisions ++ (Mask.idsBelow catalog.size mask).map .enable) := by
  rw [state_seed, failure_seed, Mask.idsBelow_of_isBelow below (size_le_seedBound mask)]
  have based : { state with baseArch := some architecture }.Reflects catalog decisions :=
    ⟨⟨reflects.coherent.closed, reflects.coherent.touched⟩, reflects.isOn, reflects.isTouched⟩
  exact based.enableEach accepted fun id member => (Mask.mem_idsBelow.mp member).1

end State

/-! ## Operations and runs -/

section

variable {session : Session} {decisions : List Decision}

/-- An operation on ids of the catalog succeeds, and its decisions describe what it changes. -/
theorem reflects_perform (accepted : session.catalog.Accepted)
    (reflects : session.state.Reflects session.catalog decisions) {operation : Operation}
    (onCatalog : operation.OnCatalog session.catalog) :
    (session.perform operation).failure = none ∧
      (session.perform operation).state.Reflects session.catalog
        (decisions ++ operation.decisions session.catalog session.negation) := by
  cases operation with
  | enable id =>
      have valid : ¬id < 0 := Int.not_lt.mpr onCatalog.1
      have below := (Int.toNat_lt onCatalog.1).mpr onCatalog.2
      rw [perform, enable, onId, if_neg valid]
      exact ⟨State.failure_enable_of_lt accepted below, reflects.enable accepted _⟩
  | disable id =>
      have valid : ¬id < 0 := Int.not_lt.mpr onCatalog.1
      have below := (Int.toNat_lt onCatalog.1).mpr onCatalog.2
      rw [perform, disable, onId, if_neg valid]
      exact ⟨State.failure_disable_of_lt accepted below, reflects.disable accepted _⟩
  | modifier token =>
      rw [perform, applyModifier_eq, Operation.decisions]
      dsimp only
      cases parsed : session.catalog.parse?
          (ExtensionCatalog.splitToken session.negation token).2 with
      | none => simpa using reflects
      | some id =>
          have below := ExtensionCatalog.lt_size_of_find? parsed
          dsimp only
          split
          · exact ⟨State.failure_disable_of_lt accepted below, reflects.disable accepted id⟩
          · exact ⟨State.failure_enable_of_lt accepted below, reflects.enable accepted id⟩
  | archDefaults architecture => exact reflects.seed accepted architecture onCatalog
  | cpuDefaults processor => exact reflects.seed accepted processor.architecture onCatalog

theorem reflects_run (accepted : session.catalog.Accepted)
    (reflects : session.state.Reflects session.catalog decisions) {operations : List Operation}
    (onCatalog : ∀ operation ∈ operations, operation.OnCatalog session.catalog) :
    (session.run operations).state.Reflects session.catalog
      (decisions ++
        operations.flatMap (Operation.decisions session.catalog session.negation)) := by
  induction operations generalizing session decisions with
  | nil => simpa using reflects
  | cons operation rest ih =>
      rw [List.flatMap_cons, ← List.append_assoc]
      have kept : (session.apply operation).catalog.Accepted := accepted
      have next := (reflects_perform accepted reflects (onCatalog operation List.mem_cons_self)).2
      exact ih kept next fun other member => onCatalog other (List.mem_cons_of_mem _ member)

theorem baseArch_perform (accepted : session.catalog.Accepted) (operation : Operation) :
    (session.perform operation).state.baseArch = operation.base?.or session.state.baseArch := by
  rcases perform_cases session operation with
    ⟨none, same | ⟨id, same⟩ | ⟨id, same⟩⟩ | ⟨architecture, ids, based, same⟩
  · rw [same, none, Option.none_or]
  · rw [same, none, Option.none_or, State.baseArch_enable accepted]
  · rw [same, none, Option.none_or, State.baseArch_disable accepted]
  · rw [same, based, Option.some_or]
    apply State.enableEach_preserves fun state => state.baseArch = some architecture
    · exact fun _ _ holds => (State.baseArch_enable accepted).trans holds
    · rfl

theorem baseArch_run (accepted : session.catalog.Accepted) (operations : List Operation) :
    (session.run operations).state.baseArch =
      (operations.filterMap Operation.base?).getLast?.or session.state.baseArch := by
  induction operations generalizing session with
  | nil => rfl
  | cons operation rest ih =>
      have kept : (session.apply operation).catalog.Accepted := accepted
      rw [run_cons, ih kept, apply, baseArch_perform accepted, List.filterMap_cons]
      cases operation.base? with
      | none => rfl
      | some architecture => simp [List.getLast?_cons]

end

theorem reflects_run_of_start? {catalog : ExtensionCatalog} (accepted : catalog.Accepted)
    {negation : String} {fresh : Session} (started : start? catalog negation = some fresh)
    {operations : List Operation}
    (onCatalog : ∀ operation ∈ operations, operation.OnCatalog catalog) :
    (fresh.run operations).state.Reflects catalog
      (operations.flatMap (Operation.decisions catalog negation)) := by
  have same := eq_of_start? started
  subst same
  have described := @reflects_run ⟨catalog, negation, .start⟩ [] accepted State.reflects_start
    operations onCatalog
  rwa [List.nil_append] at described

theorem failure_perform_run {catalog : ExtensionCatalog} (accepted : catalog.Accepted)
    {negation : String} {fresh : Session} (started : start? catalog negation = some fresh)
    {before after : List Operation} {operation : Operation}
    (onCatalog : ∀ other ∈ before ++ operation :: after, other.OnCatalog catalog) :
    ((fresh.run before).perform operation).failure = none := by
  have reflects := reflects_run_of_start? accepted started fun other member =>
    onCatalog other (List.mem_append_left (operation :: after) member)
  have allowed := onCatalog operation (by simp)
  have here : catalog = (fresh.run before).catalog := by rw [catalog_run, eq_of_start? started]
  rw [here] at accepted reflects allowed
  exact (reflects_perform accepted reflects allowed).1

theorem Reachable.failure_perform {catalog : ExtensionCatalog} {session : Session}
    (reachable : Reachable catalog session) (accepted : catalog.Accepted) {operation : Operation}
    (onCatalog : operation.OnCatalog catalog) : (session.perform operation).failure = none := by
  rcases reachable with ⟨negation, fresh, earlier, started, earlierOnCatalog, rfl⟩
  have whole : ∀ other ∈ earlier ++ [operation], other.OnCatalog catalog := by
    intro other member
    rcases List.mem_append.mp member with old | new
    · exact earlierOnCatalog other old
    · exact List.mem_singleton.mp new ▸ onCatalog
  exact failure_perform_run accepted started whole

/-- A session reached on ids of the catalog has a history that describes it after any further
operations. -/
theorem Reachable.exists_history {catalog : ExtensionCatalog} {session : Session}
    (reachable : Reachable catalog session) (accepted : catalog.Accepted) :
    ∃ history, ∀ operations : List Operation,
      (∀ operation ∈ operations, operation.OnCatalog catalog) →
        (session.run operations).state.Reflects catalog
          (history ++ operations.flatMap (Operation.decisions catalog session.negation)) := by
  rcases reachable with ⟨negation, fresh, earlier, started, earlierOnCatalog, rfl⟩
  refine ⟨earlier.flatMap (Operation.decisions catalog negation), fun operations onCatalog => ?_⟩
  have whole : ∀ operation ∈ earlier ++ operations, operation.OnCatalog catalog := by
    intro operation member
    rcases List.mem_append.mp member with old | new
    · exact earlierOnCatalog operation old
    · exact onCatalog operation new
  have sameNegation : (fresh.run earlier).negation = negation := by
    rw [negation_run, eq_of_start? started]
  have described := reflects_run_of_start? accepted started whole
  rw [sameNegation]
  rwa [run_append, List.flatMap_append] at described

/-- At the end of any operations on ids of the catalog, none of which fails, an extension is enabled
when an operation enables it or something that requires it and no later one disables it or
something that it requires. It is touched when an operation enables it or something that requires
it, or disables that very extension. The base architecture is that of the last defaults. -/
theorem last_decision_wins {catalog : ExtensionCatalog} (accepted : catalog.Accepted)
    {negation : String} {fresh : Session} (started : start? catalog negation = some fresh)
    (operations : List Operation)
    (onCatalog : ∀ operation ∈ operations, operation.OnCatalog catalog) :
    let final := (fresh.run operations).state
    let decisions := operations.flatMap (Operation.decisions catalog negation)
    (∀ id, final.IsOn id ↔ Decision.StaysOn catalog decisions id) ∧
    (∀ id, final.IsTouched id ↔ Decision.Concerns catalog decisions id) ∧
    final.baseArch = (operations.filterMap Operation.base?).getLast? ∧
    ∀ before operation after, operations = before ++ operation :: after →
      ((fresh.run before).perform operation).failure = none := by
  have final := reflects_run_of_start? accepted started onCatalog
  refine ⟨final.isOn, final.isTouched, ?_, ?_⟩
  · rw [eq_of_start? started, baseArch_run accepted]
    exact Option.or_none
  · rintro before operation after rfl
    exact failure_perform_run accepted started onCatalog

theorem last_decision_wins_small :
    let operations : List Operation := [.archDefaults smallArchitecture, .modifier "no-simd",
      .enable 2, .modifier "no-such", .disable 0, .modifier "neon"]
    let final := (small.run operations).state
    let decisions := operations.flatMap (Operation.decisions .small "no-")
    decisions = [.enable 1, .enable 3, .disable 1, .enable 2, .disable 0, .enable 1] ∧
    ExtensionCatalog.small.Accepted ∧ start? .small "no-" = some small ∧
    (∀ operation ∈ operations, operation.OnCatalog .small) ∧
    (∀ id, final.IsOn id ↔ Decision.StaysOn .small decisions id) ∧
    (∀ id, final.IsTouched id ↔ Decision.Concerns .small decisions id) ∧
    final.baseArch = some smallArchitecture ∧
    ∀ before operation after, operations = before ++ operation :: after →
      ((small.run before).perform operation).failure = none := by
  refine ⟨?_, ExtensionCatalog.accepted_small, started_small, ?_,
    last_decision_wins ExtensionCatalog.accepted_small started_small _ ?_⟩
  · decide
  · decide
  · decide

end TargetFeatures.Session
