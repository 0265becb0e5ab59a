import TargetFeatures.Proofs.Catalog.Description
import TargetFeatures.Proofs.Session.Replay
import TargetFeatures.Session.Resolve

/-!
# Which resolutions succeed

A resolution looks up the architecture, the processor and the modifiers of a request one after the
other and works on the session in between. On a catalog that was built no step of this work fails,
since all sets of defaults stay within the catalog. A resolution therefore amounts to a `plan`,
which does all the looking up, and a run of the operations in the plan (`resolve_eq_plan`). It ends
with an error exactly when a name in the request is unknown, and the first one decides.
-/

namespace TargetFeatures

/-! ## Names that are known -/

namespace ModelCatalog

variable {catalog : ModelCatalog} {name : String}

/-- Whether an architecture has a name or, without its sign, a feature flag. -/
def KnowsArch (catalog : ModelCatalog) (name : String) : Prop :=
  ∃ architecture ∈ catalog.architectures, architecture.name = name ∨ architecture.subArch = name

instance : Decidable (catalog.KnowsArch name) :=
  inferInstanceAs (Decidable (∃ _ ∈ catalog.architectures, _))

theorem isSome_archTarget?_iff :
    (Session.archTarget? catalog name).isSome = true ↔ catalog.KnowsArch name := by
  rw [Session.archTarget?, Option.isSome_or, Bool.or_eq_true, parseArch?, findBySubArch?,
    List.find?_isSome, List.find?_isSome, KnowsArch]
  simp only [List.mem_reverse, beq_iff_eq, and_or_left, exists_or]

theorem mem_of_archTarget? {architecture : Architecture}
    (found : Session.archTarget? catalog name = some architecture) :
    architecture ∈ catalog.architectures := by
  rw [Session.archTarget?, Option.or_eq_some_iff] at found
  rcases found with named | ⟨_, flagged⟩
  · exact List.mem_of_find?_eq_some named
  · exact List.mem_reverse.mp (List.mem_of_find?_eq_some flagged)

end ModelCatalog

/-- Whether the name in a token is that of an extension or an alternate one. -/
def ExtensionCatalog.Designates (catalog : ExtensionCatalog) (negation token : String) : Prop :=
  ∃ extension ∈ catalog.extensions,
    extension.name = catalog.aliases.resolve (splitToken negation token).2

instance (catalog : ExtensionCatalog) (negation token : String) :
    Decidable (catalog.Designates negation token) :=
  inferInstanceAs (Decidable (∃ _ ∈ catalog.extensions, _))

theorem ExtensionCatalog.isSome_parse?_iff {catalog : ExtensionCatalog} {negation token : String} :
    (catalog.parse? (splitToken negation token).2).isSome = true ↔
      catalog.Designates negation token := by
  rw [parse?, Option.isSome_iff_exists, exists_find?_iff, names, List.mem_map, Designates]

namespace Session

/-! ## Plans -/

/-- The operation that a target amounts to, if one is requested; `find?` looks up its name. -/
def targetPlan {α : Type} (find? : String → Option α) (operation : α → Operation)
    (unknown : String → ResolveError) : Option String → Except ResolveError (List Operation)
  | none => .ok []
  | some name =>
    match find? name with
    | none => .error (unknown name)
    | some found => .ok [operation found]

/-- The operations that a list of modifiers amounts to. -/
def modifierPlan (catalog : ExtensionCatalog) (negation : String) :
    List String → Except ResolveError (List Operation)
  | [] => .ok []
  | token :: rest =>
    match catalog.parse? (ExtensionCatalog.splitToken negation token).2 with
    | none => .error (.unknownModifier token)
    | some _ => do return .modifier token :: (← modifierPlan catalog negation rest)

/-- The operations that a request amounts to, or what is unknown in it. -/
def plan (catalog : ModelCatalog) (negation : String) (request : Request) :
    Except ResolveError (List Operation) := do
  let forArch ← targetPlan (archTarget? catalog) .archDefaults .unknownArchitecture request.arch
  let forCpu ← targetPlan catalog.parseCpu? .cpuDefaults .unknownProcessor request.cpu
  let modifiers ← modifierPlan catalog.extensions negation request.modifiers
  return forArch ++ (forCpu ++ modifiers)

section

variable {α : Type} {find? : String → Option α} {operation : α → Operation}
  {unknown : String → ResolveError} {target : Option String} {operations : List Operation}
  {error : ResolveError}

theorem exists_targetPlan_eq_ok_iff :
    (∃ operations, targetPlan find? operation unknown target = .ok operations) ↔
      ∀ name ∈ target, (find? name).isSome = true := by
  cases target with
  | none => simp [targetPlan]
  | some name =>
      rw [targetPlan]
      cases found : find? name <;> simp [found]

theorem targetPlan_eq_error_iff :
    targetPlan find? operation unknown target = .error error ↔
      ∃ name, target = some name ∧ find? name = none ∧ error = unknown name := by
  cases target with
  | none => simp [targetPlan]
  | some name =>
      rw [targetPlan]
      cases found : find? name <;> simp [found, eq_comm]

theorem onCatalog_targetPlan {catalog : ExtensionCatalog}
    (each : ∀ name found, find? name = some found → (operation found).OnCatalog catalog)
    (planned : targetPlan find? operation unknown target = .ok operations) :
    ∀ operation ∈ operations, operation.OnCatalog catalog := by
  cases target with
  | none =>
      injection planned with same
      simp [← same]
  | some name =>
      rw [targetPlan] at planned
      split at planned
      · cases planned
      · next found =>
          injection planned with same
          rw [← same, List.forall_mem_singleton]
          exact each name _ found

end

section

variable {catalog : ExtensionCatalog} {negation : String} {modifiers : List String}
  {operations : List Operation} {error : ResolveError}

theorem modifierPlan_cons_eq (token : String) (rest : List String) :
    (catalog.Designates negation token ∧
      modifierPlan catalog negation (token :: rest) =
        (modifierPlan catalog negation rest).map (.modifier token :: ·)) ∨
    (¬catalog.Designates negation token ∧
      modifierPlan catalog negation (token :: rest) = .error (.unknownModifier token)) := by
  rw [← ExtensionCatalog.isSome_parse?_iff, modifierPlan]
  cases catalog.parse? (ExtensionCatalog.splitToken negation token).2 with
  | none => exact Or.inr ⟨Bool.false_ne_true, rfl⟩
  | some _ => exact Or.inl ⟨rfl, rfl⟩

theorem exists_modifierPlan_eq_ok_iff :
    (∃ operations, modifierPlan catalog negation modifiers = .ok operations) ↔
      ∀ token ∈ modifiers, catalog.Designates negation token := by
  induction modifiers with
  | nil => simp [modifierPlan]
  | cons token rest ih =>
      rw [List.forall_mem_cons, ← ih]
      rcases modifierPlan_cons_eq token rest with ⟨known, planned⟩ | ⟨unknown, planned⟩
      · rw [planned, and_iff_right known]
        cases modifierPlan catalog negation rest <;> simp [Except.map]
      · simp [planned, unknown]

theorem modifierPlan_eq_error_iff :
    modifierPlan catalog negation modifiers = .error error ↔
      ∃ before token after, modifiers = before ++ token :: after ∧
        (∀ other ∈ before, catalog.Designates negation other) ∧
        ¬catalog.Designates negation token ∧ error = .unknownModifier token := by
  induction modifiers with
  | nil => simp [modifierPlan]
  | cons first rest ih =>
      rcases modifierPlan_cons_eq first rest with ⟨known, planned⟩ | ⟨unknown, planned⟩
      · have later : modifierPlan catalog negation (first :: rest) = .error error ↔
            modifierPlan catalog negation rest = .error error := by
          rw [planned, map_eq_error_iff]
        rw [later, ih]
        constructor
        · rintro ⟨before, token, after, rfl, designated, rest⟩
          exact ⟨first :: before, token, after, rfl,
            List.forall_mem_cons.mpr ⟨known, designated⟩, rest⟩
        · rintro ⟨before, token, after, split, designated, undesignated, same⟩
          cases before with
          | nil => exact absurd ((List.cons.inj split).1 ▸ known) undesignated
          | cons head before =>
              exact ⟨before, token, after, (List.cons.inj split).2,
                (List.forall_mem_cons.mp designated).2, undesignated, same⟩
      · rw [planned]
        constructor
        · rintro ⟨⟩
          exact ⟨[], first, rest, rfl, by simp, unknown, rfl⟩
        · rintro ⟨before, token, after, split, designated, _, rfl⟩
          cases before with
          | nil => rw [(List.cons.inj split).1]
          | cons head before =>
              rw [← (List.cons.inj split).1] at designated
              exact absurd (List.forall_mem_cons.mp designated).1 unknown

theorem onCatalog_modifierPlan
    (planned : modifierPlan catalog negation modifiers = .ok operations) :
    ∀ operation ∈ operations, operation.OnCatalog catalog := by
  induction modifiers generalizing operations with
  | nil =>
      injection planned with same
      simp [← same]
  | cons token rest ih =>
      rw [modifierPlan] at planned
      split at planned
      · cases planned
      · rw [bind_eq_ok_iff] at planned
        rcases planned with ⟨others, othersPlanned, made⟩
        injection made with same
        rw [← same, List.forall_mem_cons]
        exact ⟨trivial, ih othersPlanned⟩

end

/-! ## A resolution runs its plan -/

/-- Looks up a target, if one is requested, and performs the operation that it amounts to. -/
def seedTarget {α : Type} (find? : String → Option α) (operation : α → Operation)
    (unknown : String → ResolveError) (target : Option String) (session : Session) :
    Except ResolveError Session :=
  match target with
  | none => .ok session
  | some name =>
    match find? name with
    | none => .error (unknown name)
    | some found => session.continue_ (session.perform (operation found))

theorem seedArch_eq (catalog : ModelCatalog) :
    seedArch catalog = seedTarget (archTarget? catalog) .archDefaults .unknownArchitecture := by
  funext arch session
  cases arch with
  | none => rfl
  | some name =>
      rw [seedArch, seedTarget]
      cases archTarget? catalog name <;> rfl

theorem seedCpu_eq (catalog : ModelCatalog) :
    seedCpu catalog = seedTarget catalog.parseCpu? .cpuDefaults .unknownProcessor := by
  funext cpu session
  cases cpu with
  | none => rfl
  | some name =>
      rw [seedCpu, seedTarget]
      cases catalog.parseCpu? name <;> rfl

section

variable {catalog : ExtensionCatalog} {session : Session}

theorem Reachable.continue_perform (reachable : Reachable catalog session)
    (accepted : catalog.Accepted) {operation : Operation}
    (onCatalog : operation.OnCatalog catalog) :
    session.continue_ (session.perform operation) = .ok (session.run [operation]) := by
  rw [continue_, reachable.failure_perform accepted onCatalog]
  rfl

theorem Reachable.seedTarget_eq (reachable : Reachable catalog session)
    (accepted : catalog.Accepted) {α : Type} {find? : String → Option α}
    {operation : α → Operation}
    (each : ∀ name found, find? name = some found → (operation found).OnCatalog catalog)
    (unknown : String → ResolveError) (target : Option String) :
    seedTarget find? operation unknown target session =
      (targetPlan find? operation unknown target).map session.run := by
  cases target with
  | none => rfl
  | some name =>
      rw [seedTarget, targetPlan]
      cases known : find? name with
      | none => rfl
      | some found => exact reachable.continue_perform accepted (each name found known)

theorem Reachable.applyModifiers_eq (reachable : Reachable catalog session)
    (accepted : catalog.Accepted) (modifiers : List String) :
    applyModifiers modifiers session =
      (modifierPlan catalog session.negation modifiers).map session.run := by
  induction modifiers generalizing session with
  | nil => rfl
  | cons token rest ih =>
      have sameCatalog := (reachable.regular accepted).catalog_eq
      have step := @Reachable.continue_perform _ _ reachable accepted (.modifier token) trivial
      have next : Reachable catalog (session.run [.modifier token]) :=
        reachable.run (by simp [Operation.OnCatalog])
      rw [perform, applyModifier_eq, sameCatalog] at step
      rw [applyModifiers, applyModifier_eq, sameCatalog, modifierPlan]
      dsimp only at step ⊢
      cases parsed : catalog.parse? (ExtensionCatalog.splitToken session.negation token).2 with
      | none => rfl
      | some id =>
          simp only [parsed] at step ⊢
          rw [step]
          change applyModifiers rest (session.run [.modifier token]) = _
          rw [ih next, negation_run]
          cases modifierPlan catalog session.negation rest <;> rfl

end

section

variable {spec : CatalogSpec} {catalog : ModelCatalog} {negation : String} {request : Request}

theorem onCatalog_archDefaults (represents : ModelCatalog.Represents spec catalog) (name : String)
    (architecture : Architecture) (found : archTarget? catalog name = some architecture) :
    (Operation.archDefaults architecture).OnCatalog catalog.extensions :=
  represents.isBelow_defaults (ModelCatalog.mem_of_archTarget? found)

theorem onCatalog_cpuDefaults (represents : ModelCatalog.Represents spec catalog) (name : String)
    (processor : Processor) (found : catalog.parseCpu? name = some processor) :
    (Operation.cpuDefaults processor).OnCatalog catalog.extensions :=
  represents.isBelow_implied (List.mem_of_find?_eq_some found)

theorem onCatalog_plan (represents : ModelCatalog.Represents spec catalog)
    {operations : List Operation} (planned : plan catalog negation request = .ok operations) :
    ∀ operation ∈ operations, operation.OnCatalog catalog.extensions := by
  simp only [plan, bind_eq_ok_iff] at planned
  rcases planned with ⟨architecture, archPlanned, processor, cpuPlanned, modifiers,
    modifiersPlanned, made⟩
  injection made with same
  rw [← same, List.forall_mem_append, List.forall_mem_append]
  exact ⟨onCatalog_targetPlan (onCatalog_archDefaults represents) archPlanned,
    onCatalog_targetPlan (onCatalog_cpuDefaults represents) cpuPlanned,
    onCatalog_modifierPlan modifiersPlanned⟩

theorem reachable_fresh (catalog : ExtensionCatalog) (nonempty : negation ≠ "") :
    Reachable catalog ⟨catalog, negation, .start⟩ :=
  ⟨negation, _, [], if_neg nonempty, by simp, rfl⟩

/-- On a catalog that was built, a resolution runs its plan, if it has one. -/
theorem resolve_eq_plan (represents : ModelCatalog.Represents spec catalog)
    (nonempty : negation ≠ "") :
    resolve catalog negation request =
      (plan catalog negation request).map (Session.mk catalog.extensions negation .start).run := by
  have accepted := represents.accepted
  have fresh := reachable_fresh catalog.extensions nonempty
  rw [resolve, start?, if_neg nonempty, plan]
  dsimp only
  rw [seedArch_eq, fresh.seedTarget_eq accepted (onCatalog_archDefaults represents)]
  cases archPlanned : targetPlan (archTarget? catalog) .archDefaults .unknownArchitecture
      request.arch with
  | error error => rfl
  | ok architecture =>
      -- The next stage starts from a session reached on ids of the catalog, so its steps succeed.
      have seeded := fresh.run
        (onCatalog_targetPlan (onCatalog_archDefaults represents) archPlanned)
      have afterArch := seeded.seedTarget_eq accepted (onCatalog_cpuDefaults represents)
        .unknownProcessor request.cpu
      rw [← seedCpu_eq] at afterArch
      simp only [Except.map, bind, Except.bind, afterArch]
      cases cpuPlanned : targetPlan catalog.parseCpu? .cpuDefaults .unknownProcessor
          request.cpu with
      | error error => rfl
      | ok processor =>
          have seededTwice := seeded.run
            (onCatalog_targetPlan (onCatalog_cpuDefaults represents) cpuPlanned)
          have afterCpu := seededTwice.applyModifiers_eq accepted request.modifiers
          rw [negation_run, negation_run] at afterCpu
          simp only [afterCpu, Except.map]
          cases modifierPlan catalog.extensions negation request.modifiers with
          | error error => rfl
          | ok modifiers =>
              simp only [pure, Except.pure, run_append]

end

/-! ## What is unknown in a request -/

/-- What a resolution has to report. The architecture comes before the processor, and that comes
before the modifiers. -/
inductive Request.Rejected (catalog : ModelCatalog) (negation : String) (request : Request) :
    ResolveError → Prop
  | architecture {name : String} (requested : request.arch = some name)
      (unknown : ¬catalog.KnowsArch name) :
      Rejected catalog negation request (.unknownArchitecture name)
  | processor {name : String} (archKnown : ∀ name ∈ request.arch, catalog.KnowsArch name)
      (requested : request.cpu = some name) (unknown : catalog.parseCpu? name = none) :
      Rejected catalog negation request (.unknownProcessor name)
  | modifier {before after : List String} {token : String}
      (archKnown : ∀ name ∈ request.arch, catalog.KnowsArch name)
      (cpuKnown : ∀ name ∈ request.cpu, (catalog.parseCpu? name).isSome = true)
      (split : request.modifiers = before ++ token :: after)
      (designated : ∀ other ∈ before, catalog.extensions.Designates negation other)
      (unknown : ¬catalog.extensions.Designates negation token) :
      Rejected catalog negation request (.unknownModifier token)

/-- Whether everything that a request names is known. -/
structure Request.Known (catalog : ModelCatalog) (negation : String) (request : Request) :
    Prop where
  arch : ∀ name ∈ request.arch, catalog.KnowsArch name
  cpu : ∀ name ∈ request.cpu, (catalog.parseCpu? name).isSome = true
  modifiers : ∀ token ∈ request.modifiers, catalog.extensions.Designates negation token

section

variable {catalog : ModelCatalog} {negation : String} {request : Request} {error : ResolveError}

theorem exists_archPlan_eq_ok_iff :
    (∃ operations, targetPlan (archTarget? catalog) .archDefaults .unknownArchitecture
      request.arch = .ok operations) ↔ ∀ name ∈ request.arch, catalog.KnowsArch name := by
  simp only [exists_targetPlan_eq_ok_iff, ModelCatalog.isSome_archTarget?_iff]

theorem exists_plan_eq_ok_iff :
    (∃ operations, plan catalog negation request = .ok operations) ↔
      request.Known catalog negation := by
  simp only [plan, bind_eq_ok_iff]
  constructor
  · rintro ⟨_, _, archPlanned, _, cpuPlanned, _, modifiersPlanned, _⟩
    exact ⟨exists_archPlan_eq_ok_iff.mp ⟨_, archPlanned⟩,
      exists_targetPlan_eq_ok_iff.mp ⟨_, cpuPlanned⟩,
      exists_modifierPlan_eq_ok_iff.mp ⟨_, modifiersPlanned⟩⟩
  · intro known
    rcases exists_archPlan_eq_ok_iff.mpr known.arch with ⟨_, archPlanned⟩
    rcases exists_targetPlan_eq_ok_iff.mpr known.cpu with ⟨_, cpuPlanned⟩
    rcases exists_modifierPlan_eq_ok_iff.mpr known.modifiers with ⟨_, modifiersPlanned⟩
    exact ⟨_, _, archPlanned, _, cpuPlanned, _, modifiersPlanned, rfl⟩

theorem plan_eq_error_iff :
    plan catalog negation request = .error error ↔ request.Rejected catalog negation error := by
  simp only [plan, bind_eq_error_iff, targetPlan_eq_error_iff, modifierPlan_eq_error_iff]
  constructor
  · rintro (⟨name, requested, missing, rfl⟩ | ⟨_, archPlanned, ⟨name, requested, missing, rfl⟩ |
      ⟨_, cpuPlanned, ⟨before, token, after, split, designated, undesignated, rfl⟩ | ⟨_, _, made⟩⟩⟩)
    · refine .architecture requested ?_
      rw [← ModelCatalog.isSome_archTarget?_iff, missing]
      exact Bool.false_ne_true
    · exact .processor (exists_archPlan_eq_ok_iff.mp ⟨_, archPlanned⟩) requested missing
    · exact .modifier (exists_archPlan_eq_ok_iff.mp ⟨_, archPlanned⟩)
        (exists_targetPlan_eq_ok_iff.mp ⟨_, cpuPlanned⟩) split designated undesignated
    · cases made
  · intro rejected
    cases rejected with
    | architecture requested unknown =>
        rw [← ModelCatalog.isSome_archTarget?_iff, Bool.not_eq_true, Option.isSome_eq_false_iff,
          Option.isNone_iff_eq_none] at unknown
        exact Or.inl ⟨_, requested, unknown, rfl⟩
    | processor archKnown requested unknown =>
        rcases exists_archPlan_eq_ok_iff.mpr archKnown with ⟨_, archPlanned⟩
        exact Or.inr ⟨_, archPlanned, Or.inl ⟨_, requested, unknown, rfl⟩⟩
    | modifier archKnown cpuKnown split designated unknown =>
        rcases exists_archPlan_eq_ok_iff.mpr archKnown with ⟨_, archPlanned⟩
        rcases exists_targetPlan_eq_ok_iff.mpr cpuKnown with ⟨_, cpuPlanned⟩
        exact Or.inr ⟨_, archPlanned, Or.inr ⟨_, cpuPlanned,
          Or.inl ⟨_, _, _, split, designated, unknown, rfl⟩⟩⟩

end

theorem Regular.enabledNames?_eq {catalog : ExtensionCatalog} {session : Session}
    (regular : session.Regular catalog) (distinct : catalog.names.Nodup) :
    session.enabledNames? =
      some (catalog.names.filter (catalog.includes session.state.enabled)) := by
  rw [enabledNames?, regular.catalog_eq,
    ExtensionCatalog.names?_eq distinct regular.isBelow_enabled]

/-- On a catalog that was built, a resolution fails exactly with what is unknown in the request, and
it succeeds when everything is known. Both sets are then within the catalog, so that the feature
list and the enabled names can be shown. -/
theorem resolve_fails_on_unknown_names {spec : CatalogSpec} {catalog : ModelCatalog}
    (built : ModelCatalog.build spec = .ok catalog) {negation : String} (nonempty : negation ≠ "")
    (request : Request) :
    (∀ error, resolve catalog negation request = .error error ↔
      request.Rejected catalog negation error) ∧
    ((∃ session, resolve catalog negation request = .ok session) ↔
      request.Known catalog negation) ∧
    ∀ session, resolve catalog negation request = .ok session →
      session.catalog = catalog.extensions ∧
      Mask.isBelow catalog.extensions.size session.state.enabled = true ∧
      Mask.isBelow catalog.extensions.size session.state.touched = true ∧
      (∃ tokens, session.featureList? = some tokens) ∧
      ∃ names, session.enabledNames? = some names := by
  have represents := ModelCatalog.represents_build built
  rw [resolve_eq_plan represents nonempty]
  refine ⟨fun error => ?_, ?_, fun session resolved => ?_⟩
  · exact map_eq_error_iff.trans plan_eq_error_iff
  · rw [← exists_plan_eq_ok_iff]
    simp only [map_eq_ok_iff, exists_comm, exists_and_left, exists_eq', and_true]
  · rcases map_eq_ok_iff.mp resolved with ⟨operations, planned, rfl⟩
    have reachable := (reachable_fresh catalog.extensions nonempty).run
      (onCatalog_plan represents planned)
    have regular := reachable.regular represents.accepted
    exact ⟨regular.catalog_eq, regular.isBelow_enabled, regular.isBelow_touched,
      ⟨_, regular.featureList?_eq⟩,
      ⟨_, regular.enabledNames?_eq represents.accepted.nodup_names⟩⟩

theorem resolve_fails_on_unknown_names_small :
    let accepted : Request := ⟨some "n1", some "v8a", ["neon", "no-crc"]⟩
    let rejected : Request := ⟨some "n1", some "v8a", ["neon", "no-crypto", "aes"]⟩
    (∃ session, resolve .small "no-" accepted = .ok session ∧
      Mask.isBelow 4 session.state.enabled = true ∧
      Mask.isBelow 4 session.state.touched = true ∧
      (∃ tokens, session.featureList? = some tokens) ∧
      ∃ names, session.enabledNames? = some names) ∧
    resolve .small "no-" rejected = .error (.unknownModifier "no-crypto") := by
  intro accepted rejected
  constructor
  · rcases resolve_fails_on_unknown_names ModelCatalog.build_small (by decide : "no-" ≠ "") accepted
      with ⟨_, succeeds, result⟩
    rcases succeeds.mpr ⟨by decide, by decide, by decide⟩ with ⟨session, resolved⟩
    exact ⟨session, resolved, (result session resolved).2⟩
  · rcases resolve_fails_on_unknown_names ModelCatalog.build_small (by decide : "no-" ≠ "") rejected
      with ⟨fails, _⟩
    exact (fails _).mpr (@Request.Rejected.modifier _ _ _ ["neon"] ["aes"] _ (by decide) (by decide)
      rfl (by decide) (by decide))

end Session

end TargetFeatures
