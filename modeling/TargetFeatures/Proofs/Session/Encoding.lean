import Mathlib.Data.List.Find
import TargetFeatures.Proofs.Catalog.Encoding
import TargetFeatures.Proofs.Session.Resolution

/-!
# Sessions on catalogs that say the same

What an operation does to a session can be said by name: it enables what a name requires, or
disables what requires a name. Sessions on two catalogs that say the same about names therefore
stay alike when they perform the same operations (`Mirrors`), although the ids, the order of the
visits and the order in which defaults are enabled differ. A resolution has the same outcome on
both, and in particular its result does not depend on the order of a description.
-/

namespace TargetFeatures

namespace ExtensionCatalog

variable {catalog left right : ExtensionCatalog} {name other : String} {id : Nat}

theorem requires_iff_of_find? (found : catalog.find? name = some id) :
    catalog.Requires name other ↔
      ∃ required, catalog.find? other = some required ∧ catalog.Ancestor id required := by
  simp [Requires, found]

theorem exists_requires_iff (accepted : catalog.Accepted) {mask : Int} :
    (∃ chosen, catalog.includes mask chosen = true ∧ catalog.Requires chosen name) ↔
      ∃ id, catalog.find? name = some id ∧
        ∃ first ∈ Mask.idsBelow catalog.size mask, catalog.Ancestor first id := by
  constructor
  · rintro ⟨chosen, member, requires⟩
    rcases includes_iff.mp member with ⟨first, found, contained⟩
    rcases (requires_iff_of_find? found).mp requires with ⟨id, foundName, reached⟩
    exact ⟨id, foundName, first, Mask.mem_idsBelow.mpr ⟨lt_size_of_find? found, contained⟩, reached⟩
  · rintro ⟨id, foundName, first, listed, reached⟩
    rcases Mask.mem_idsBelow.mp listed with ⟨inside, contained⟩
    rcases exists_name_of_lt accepted.nodup_names inside with ⟨chosen, found⟩
    exact ⟨chosen, includes_iff.mpr ⟨first, found, contained⟩,
      (requires_iff_of_find? found).mpr ⟨id, foundName, reached⟩⟩

/-- The id of an extension is known in both catalogs, or in none. -/
theorem SameByName.find?_eq (same : left.SameByName right) (name : String) :
    (left.find? name = none ∧ right.find? name = none) ∨
      ∃ id twin, left.find? name = some id ∧ right.find? name = some twin := by
  by_cases known : name ∈ left.names
  · rcases exists_find?_iff.mpr known with ⟨id, found⟩
    rcases exists_find?_iff.mpr (same.names.mem_iff.mp known) with ⟨twin, twinFound⟩
    exact Or.inr ⟨id, twin, found, twinFound⟩
  · have unknown : name ∉ right.names := mt same.names.mem_iff.mpr known
    exact Or.inl ⟨find?_eq_none_iff.mpr known, find?_eq_none_iff.mpr unknown⟩

end ExtensionCatalog

namespace Session

/-! ## What operations do to names -/

/-- Whether a step enables what the extensions with some names require, and nothing else. -/
structure Enables (catalog : ExtensionCatalog) (chosen : String → Prop) (before after : State) :
    Prop where
  enabled : ∀ name, catalog.includes after.enabled name = true ↔
    catalog.includes before.enabled name = true ∨
      ∃ other, chosen other ∧ catalog.Requires other name
  touched : ∀ name, catalog.includes after.touched name = true ↔
    catalog.includes before.touched name = true ∨
      ∃ other, chosen other ∧ catalog.Requires other name

/-- Whether a step disables what requires the extension with a name, and nothing else. -/
structure Disables (catalog : ExtensionCatalog) (chosen : String) (before after : State) :
    Prop where
  enabled : ∀ name, catalog.includes after.enabled name = true ↔
    catalog.includes before.enabled name = true ∧ ¬catalog.Requires name chosen
  touched : ∀ name, catalog.includes after.touched name = true ↔
    catalog.includes before.touched name = true ∨ name = chosen

namespace State

variable {catalog : ExtensionCatalog} {state : State} {id : Nat} {chosen : String}

theorem enables_enable (accepted : catalog.Accepted) (coherent : state.Coherent catalog)
    (found : catalog.find? chosen = some id) :
    Enables catalog (· = chosen) state (enable catalog id state).state := by
  have on : ∀ other, (enable catalog id state).state.enabled.testBit other = true ↔
      state.enabled.testBit other = true ∨ catalog.Ancestor id other :=
    fun _ => isOn_enable accepted coherent
  have touched : ∀ other, (enable catalog id state).state.touched.testBit other = true ↔
      state.touched.testBit other = true ∨ catalog.Ancestor id other :=
    fun _ => isTouched_enable accepted coherent
  constructor
  all_goals
    simp only [ExtensionCatalog.includes_iff, Mask.contains_natCast, on, touched, exists_eq_left,
      ExtensionCatalog.requires_iff_of_find? found, and_or_left, exists_or, implies_true]

theorem disables_disable (accepted : catalog.Accepted) (coherent : state.Coherent catalog)
    (found : catalog.find? chosen = some id) :
    Disables catalog chosen state (disable catalog id state).state := by
  constructor
  · intro name
    rw [ExtensionCatalog.includes_iff, ExtensionCatalog.includes_iff]
    constructor
    · rintro ⟨other, foundOther, still⟩
      rcases (isOn_disable accepted coherent).mp still with ⟨on, apart⟩
      refine ⟨⟨other, foundOther, on⟩, fun requires => ?_⟩
      rcases (ExtensionCatalog.requires_iff_of_find? foundOther).mp requires with
        ⟨required, foundChosen, reached⟩
      rw [found] at foundChosen
      apply apart
      rw [ExtensionCatalog.descendant_iff_ancestor, Option.some.inj foundChosen]
      exact reached
    · rintro ⟨⟨other, foundOther, on⟩, apart⟩
      refine ⟨other, foundOther, (isOn_disable accepted coherent).mpr ⟨on, fun built => apart ?_⟩⟩
      rw [ExtensionCatalog.requires_iff_of_find? foundOther]
      exact ⟨id, found, ExtensionCatalog.descendant_iff_ancestor.mp built⟩
  · intro name
    have touched : ∀ other, (disable catalog id state).state.touched.testBit other = true ↔
        state.touched.testBit other = true ∨ other = id :=
      fun _ => isTouched_disable accepted coherent
    have same : catalog.find? name = some id ↔ name = chosen := by
      constructor
      · intro here
        exact ExtensionCatalog.name_eq_of_find? here found
      · rintro rfl
        exact found
    simp only [ExtensionCatalog.includes_iff, Mask.contains_natCast, touched, and_or_left,
      exists_or, exists_eq_right, same]

theorem isOn_enableEach (accepted : catalog.Accepted) (coherent : state.Coherent catalog)
    {ids : List Nat} (below : ∀ id ∈ ids, id < catalog.size) (other : Nat) :
    ((enableEach catalog ids state).state.IsOn other ↔
      state.IsOn other ∨ ∃ first ∈ ids, catalog.Ancestor first other) ∧
    ((enableEach catalog ids state).state.IsTouched other ↔
      state.IsTouched other ∨ ∃ first ∈ ids, catalog.Ancestor first other) := by
  -- Every enabling leaves a coherent state, from which the rest goes on.
  induction ids generalizing state with
  | nil => simp [enableEach, Step.skip]
  | cons id rest ih =>
      rcases ih (coherent.enable accepted id)
        (fun other member => below other (List.mem_cons_of_mem _ member)) with ⟨on, touched⟩
      have finished : (enable catalog id state).failure = none :=
        failure_enable_of_lt accepted (below id List.mem_cons_self)
      rw [isOn_enable accepted coherent] at on
      rw [isTouched_enable accepted coherent] at touched
      rw [enableEach, Step.andThen, finished]
      dsimp only
      rw [on, touched]
      simp [or_assoc]

theorem isOn_seed (accepted : catalog.Accepted) (coherent : state.Coherent catalog)
    (architecture : Architecture) {mask : Int} (below : Mask.isBelow catalog.size mask = true)
    (other : Nat) :
    ((state.seed catalog architecture mask).state.IsOn other ↔
      state.IsOn other ∨
        ∃ first ∈ Mask.idsBelow catalog.size mask, catalog.Ancestor first other) ∧
    ((state.seed catalog architecture mask).state.IsTouched other ↔
      state.IsTouched other ∨
        ∃ first ∈ Mask.idsBelow catalog.size mask, catalog.Ancestor first other) := by
  have based : { state with baseArch := some architecture }.Coherent catalog :=
    ⟨coherent.closed, coherent.touched⟩
  have inside : ∀ id ∈ Mask.idsBelow catalog.size mask, id < catalog.size :=
    fun id member => (Mask.mem_idsBelow.mp member).1
  rw [state_seed, Mask.idsBelow_of_isBelow below (size_le_seedBound mask)]
  exact isOn_enableEach accepted based inside other

theorem enables_seed (accepted : catalog.Accepted) (coherent : state.Coherent catalog)
    (architecture : Architecture) {mask : Int} (below : Mask.isBelow catalog.size mask = true) :
    Enables catalog (catalog.includes mask · = true) state
      (state.seed catalog architecture mask).state := by
  have effect := isOn_seed accepted coherent architecture below
  constructor
  · intro name
    rw [ExtensionCatalog.exists_requires_iff accepted, ExtensionCatalog.includes_iff,
      ExtensionCatalog.includes_iff]
    simp only [Mask.contains_natCast, ← exists_or, ← and_or_left]
    exact exists_congr fun other => and_congr_right fun _ => (effect other).1
  · intro name
    rw [ExtensionCatalog.exists_requires_iff accepted, ExtensionCatalog.includes_iff,
      ExtensionCatalog.includes_iff]
    simp only [Mask.contains_natCast, ← exists_or, ← and_or_left]
    exact exists_congr fun other => and_congr_right fun _ => (effect other).2

end State

/-! ## Sessions that stay alike -/

section

variable {left right : ExtensionCatalog} {before after twinBefore twinAfter : State}

/-- Whether two states, each on its catalog, have the same extensions enabled and touched. -/
structure SameSets (left right : ExtensionCatalog) (state twin : State) : Prop where
  enabled : ∀ name, left.includes state.enabled name = right.includes twin.enabled name
  touched : ∀ name, left.includes state.touched name = right.includes twin.touched name

theorem SameSets.of_enables (sets : SameSets left right before twinBefore)
    (catalogs : left.SameByName right) {chosen twinChosen : String → Prop}
    (same : ∀ name, chosen name ↔ twinChosen name) (effect : Enables left chosen before after)
    (twinEffect : Enables right twinChosen twinBefore twinAfter) :
    SameSets left right after twinAfter := by
  constructor
  · intro name
    rw [Bool.eq_iff_iff, effect.enabled, twinEffect.enabled, sets.enabled]
    simp only [same, catalogs.requires]
  · intro name
    rw [Bool.eq_iff_iff, effect.touched, twinEffect.touched, sets.touched]
    simp only [same, catalogs.requires]

theorem SameSets.of_disables (sets : SameSets left right before twinBefore)
    (catalogs : left.SameByName right) {chosen : String}
    (effect : Disables left chosen before after)
    (twinEffect : Disables right chosen twinBefore twinAfter) :
    SameSets left right after twinAfter := by
  constructor
  · intro name
    rw [Bool.eq_iff_iff, effect.enabled, twinEffect.enabled, sets.enabled, catalogs.requires]
  · intro name
    rw [Bool.eq_iff_iff, effect.touched, twinEffect.touched, sets.touched]

end

variable {left right : ExtensionCatalog} {session twin : Session}

/-- Whether two sessions, each on its catalog, have decided the same by name. -/
structure Mirrors (left right : ExtensionCatalog) (session twin : Session) : Prop where
  reachable : Reachable left session
  twinReachable : Reachable right twin
  negation : session.negation = twin.negation
  sets : SameSets left right session.state twin.state
  baseArch : Option.Rel (Architecture.SameByName left right) session.state.baseArch
    twin.state.baseArch

/-- Whether two operations do the same by name. -/
inductive Operation.SameByName (left right : ExtensionCatalog) : Operation → Operation → Prop
  | modifier (token : String) : SameByName left right (.modifier token) (.modifier token)
  | archDefaults {architecture twin : Architecture}
      (same : architecture.SameByName left right twin) :
      SameByName left right (.archDefaults architecture) (.archDefaults twin)
  | cpuDefaults {processor twin : Processor} (same : processor.SameByName left right twin) :
      SameByName left right (.cpuDefaults processor) (.cpuDefaults twin)

theorem Operation.SameByName.onCatalog {operation twin : Operation}
    (same : operation.SameByName left right twin) :
    operation.OnCatalog left ∧ twin.OnCatalog right := by
  cases same with
  | modifier token => exact ⟨trivial, trivial⟩
  | archDefaults same => exact ⟨same.defaults.leftBelow, same.defaults.rightBelow⟩
  | cpuDefaults same => exact ⟨same.implied.leftBelow, same.implied.rightBelow⟩

theorem Operation.SameByName.base? {operation twin : Operation}
    (same : operation.SameByName left right twin) :
    Option.Rel (Architecture.SameByName left right) operation.base? twin.base? := by
  cases same with
  | modifier token => exact .none
  | archDefaults same => exact .some same
  | cpuDefaults same => exact .some same.architecture

theorem sameSets_perform (catalogs : left.SameByName right) {negation : String}
    {state twinState : State} (coherent : state.Coherent left)
    (twinCoherent : twinState.Coherent right) (sets : SameSets left right state twinState)
    {operation twin : Operation} (same : operation.SameByName left right twin) :
    SameSets left right (perform ⟨left, negation, state⟩ operation).state
      (perform ⟨right, negation, twinState⟩ twin).state := by
  have accepted := catalogs.leftAccepted
  have twinAccepted := catalogs.rightAccepted
  cases same with
  | modifier token =>
      rw [perform, perform, applyModifier_eq, applyModifier_eq]
      dsimp only
      rw [ExtensionCatalog.parse?, ExtensionCatalog.parse?, ← catalogs.aliases]
      generalize left.aliases.resolve (ExtensionCatalog.splitToken negation token).2 = name
      -- The same name is known in both catalogs, under different ids perhaps.
      rcases catalogs.find?_eq name with ⟨unknown, twinUnknown⟩ | ⟨id, other, found, twinFound⟩
      · rw [unknown, twinUnknown]
        exact sets
      · rw [found, twinFound]
        dsimp only
        cases (ExtensionCatalog.splitToken negation token).1 with
        | true =>
            exact sets.of_disables catalogs (State.disables_disable accepted coherent found)
              (State.disables_disable twinAccepted twinCoherent twinFound)
        | false =>
            exact sets.of_enables catalogs (fun _ => Iff.rfl)
              (State.enables_enable accepted coherent found)
              (State.enables_enable twinAccepted twinCoherent twinFound)
  | @archDefaults architecture other same =>
      refine sets.of_enables catalogs (fun name => ?_)
        (State.enables_seed accepted coherent architecture same.defaults.leftBelow)
        (State.enables_seed twinAccepted twinCoherent other same.defaults.rightBelow)
      rw [same.defaults.includes]
  | @cpuDefaults processor other same =>
      refine sets.of_enables catalogs (fun name => ?_)
        (State.enables_seed accepted coherent processor.architecture same.implied.leftBelow)
        (State.enables_seed twinAccepted twinCoherent other.architecture same.implied.rightBelow)
      rw [same.implied.includes]

theorem Mirrors.apply (mirrors : Mirrors left right session twin)
    (catalogs : left.SameByName right) {operation other : Operation}
    (same : operation.SameByName left right other) :
    Mirrors left right (session.apply operation) (twin.apply other) := by
  have regular := mirrors.reachable.regular catalogs.leftAccepted
  have twinRegular := mirrors.twinReachable.regular catalogs.rightAccepted
  have accepted : session.catalog.Accepted := regular.catalog_eq ▸ catalogs.leftAccepted
  have twinAccepted : twin.catalog.Accepted := twinRegular.catalog_eq ▸ catalogs.rightAccepted
  constructor
  · exact mirrors.reachable.run (List.forall_mem_singleton.mpr same.onCatalog.1)
  · exact mirrors.twinReachable.run (List.forall_mem_singleton.mpr same.onCatalog.2)
  · exact mirrors.negation
  · rcases session with ⟨_, negation, state⟩
    rcases twin with ⟨_, _, twinState⟩
    rcases regular.catalog_eq
    rcases twinRegular.catalog_eq
    rcases mirrors.negation
    exact sameSets_perform catalogs regular.coherent twinRegular.coherent mirrors.sets same
  · rw [Session.apply, Session.apply, baseArch_perform accepted, baseArch_perform twinAccepted]
    exact rel_or same.base? mirrors.baseArch

theorem Mirrors.run (mirrors : Mirrors left right session twin)
    (catalogs : left.SameByName right) {operations others : List Operation}
    (same : List.Forall₂ (Operation.SameByName left right) operations others) :
    Mirrors left right (session.run operations) (twin.run others) := by
  induction same generalizing session twin with
  | nil => exact mirrors
  | cons first _ ih => exact ih (mirrors.apply catalogs first)

theorem mirrors_start {negation : String} (nonempty : negation ≠ "") :
    Mirrors left right ⟨left, negation, .start⟩ ⟨right, negation, .start⟩ where
  reachable := reachable_fresh left nonempty
  twinReachable := reachable_fresh right nonempty
  negation := rfl
  sets := by
    have nothing : ∀ (catalog : ExtensionCatalog) name, catalog.includes 0 name = false := by
      intro catalog name
      rw [← Bool.not_eq_true, ExtensionCatalog.includes_iff]
      simp [Mask.contains]
    exact ⟨fun name => by simp [State.start, nothing], fun name => by simp [State.start, nothing]⟩
  baseArch := .none

/-! ## Resolutions with the same outcome -/

/-- Whether two actions fail with the same error, or have related results. -/
inductive SameOutcome {ε α β : Type} (related : α → β → Prop) : Except ε α → Except ε β → Prop
  | error (error : ε) : SameOutcome related (.error error) (.error error)
  | ok {value : α} {twin : β} (same : related value twin) :
      SameOutcome related (.ok value) (.ok twin)

namespace SameOutcome

variable {ε α β α' β' : Type} {related : α → β → Prop} {related' : α' → β' → Prop}
  {action : Except ε α} {twin : Except ε β}

theorem bind (same : SameOutcome related action twin) {next : α → Except ε α'}
    {twinNext : β → Except ε β'} (following : ∀ value other, related value other →
      SameOutcome related' (next value) (twinNext other)) :
    SameOutcome related' (action >>= next) (twin >>= twinNext) := by
  cases same with
  | error error => exact .error error
  | ok same => exact following _ _ same

theorem map (same : SameOutcome related action twin) {change : α → α'} {twinChange : β → β'}
    (kept : ∀ value other, related value other → related' (change value) (twinChange other)) :
    SameOutcome related' (action.map change) (twin.map twinChange) := by
  cases same with
  | error error => exact .error error
  | ok same => exact .ok (kept _ _ same)

theorem imp (same : SameOutcome related action twin) {weaker : α → β → Prop}
    (implies : ∀ value other, related value other → weaker value other) :
    SameOutcome weaker action twin := by
  cases same with
  | error error => exact .error error
  | ok same => exact .ok (implies _ _ same)

end SameOutcome

theorem sameOutcome_targetPlan {α β : Type} {related : α → β → Prop} {find? : String → Option α}
    {twinFind? : String → Option β} {operation : α → Operation} {twinOperation : β → Operation}
    (found : ∀ name, Option.Rel related (find? name) (twinFind? name))
    (same : ∀ target twin, related target twin →
      (operation target).SameByName left right (twinOperation twin))
    (unknown : String → ResolveError) (target : Option String) :
    SameOutcome (List.Forall₂ (Operation.SameByName left right))
      (targetPlan find? operation unknown target)
      (targetPlan twinFind? twinOperation unknown target) := by
  cases target with
  | none => exact .ok .nil
  | some name =>
      have here := found name
      rw [targetPlan, targetPlan]
      generalize find? name = target at here ⊢
      generalize twinFind? name = twin at here ⊢
      cases here with
      | none => exact .error _
      | some related => exact .ok (.cons (same _ _ related) .nil)

theorem sameOutcome_modifierPlan (catalogs : left.SameByName right) (negation : String)
    (modifiers : List String) :
    SameOutcome (List.Forall₂ (Operation.SameByName left right))
      (modifierPlan left negation modifiers) (modifierPlan right negation modifiers) := by
  induction modifiers with
  | nil => exact .ok .nil
  | cons token rest ih =>
      have same : left.Designates negation token ↔ right.Designates negation token := by
        simp only [ExtensionCatalog.Designates, catalogs.extensions.mem_iff, catalogs.aliases]
      rcases modifierPlan_cons_eq token rest with ⟨known, planned⟩ | ⟨unknown, planned⟩
      · rcases modifierPlan_cons_eq token rest with ⟨_, twinPlanned⟩ | ⟨twinUnknown, _⟩
        · rw [planned, twinPlanned]
          exact ih.map fun _ _ others => .cons (.modifier token) others
        · exact absurd (same.mp known) twinUnknown
      · rcases modifierPlan_cons_eq token rest with ⟨twinKnown, _⟩ | ⟨_, twinPlanned⟩
        · exact absurd (same.mpr twinKnown) unknown
        · rw [planned, twinPlanned]
          exact .error _

theorem sameOutcome_plan {catalog twin : ModelCatalog} (same : catalog.SameByName twin)
    (negation : String) (request : Request) :
    SameOutcome (List.Forall₂ (Operation.SameByName catalog.extensions twin.extensions))
      (plan catalog negation request) (plan twin negation request) := by
  rw [plan, plan]
  refine (sameOutcome_targetPlan same.archTarget? (fun _ _ => .archDefaults) _ _).bind
    fun architecture _ sameArch => ?_
  refine (sameOutcome_targetPlan same.parseCpu? (fun _ _ => .cpuDefaults) _ _).bind
    fun processor _ sameCpu => ?_
  refine (sameOutcome_modifierPlan same.extensions _ _).bind fun modifiers _ sameModifiers => ?_
  exact .ok (List.rel_append sameArch (List.rel_append sameCpu sameModifiers))

/-- Resolutions on two catalogs that say the same have the same outcome. -/
theorem sameOutcome_resolve {spec twinSpec : CatalogSpec} {catalog twin : ModelCatalog}
    (represents : ModelCatalog.Represents spec catalog)
    (twinRepresents : ModelCatalog.Represents twinSpec twin) (same : catalog.SameByName twin)
    (negation : String) (request : Request) :
    SameOutcome (Mirrors catalog.extensions twin.extensions)
      (resolve catalog negation request) (resolve twin negation request) := by
  by_cases empty : negation = ""
  · rw [resolve, resolve, start?, start?, if_pos empty, if_pos empty]
    exact .error _
  · rw [resolve_eq_plan represents empty, resolve_eq_plan twinRepresents empty]
    exact (sameOutcome_plan same negation request).map fun operations others sameOperations =>
      (mirrors_start empty).run same.extensions sameOperations

/-! ## What alike sessions show -/

/-- The token of an extension in a feature list, given the enabled set. -/
def shownToken (catalog : ExtensionCatalog) (enabled : Int) (extension : Extension) : String :=
  if catalog.includes enabled extension.name then extension.feature else extension.negFeature

theorem Regular.featureList?_eq_tokens {catalog : ExtensionCatalog} {session : Session}
    (regular : session.Regular catalog) (distinct : catalog.names.Nodup) :
    session.featureList? = some ((catalog.extensions.filter fun extension =>
      catalog.includes session.state.touched extension.name).map
        (shownToken catalog session.state.enabled)) := by
  have token : session.featureToken = fun id =>
      (catalog.get? id).map (shownToken catalog session.state.enabled) := by
    funext id
    rw [featureToken, regular.catalog_eq]
    cases found : catalog.get? id with
    | none => rfl
    | some extension =>
        have chosen := ExtensionCatalog.chosen_eq_includes distinct session.state.enabled id
          extension found
        rw [Mask.contains_natCast] at chosen
        rw [Option.map_some, Option.map_some, shownToken, ← chosen]
  rw [featureList?, token, regular.catalog_eq, if_pos regular.isBelow_touched, ← List.map_filterMap,
    ExtensionCatalog.filterMap_get?_idsBelow distinct]

/-- Whether two lists are there and have the same entries, each as often. -/
def SameEntries (first second : Option (List String)) : Prop :=
  ∃ entries others, first = some entries ∧ second = some others ∧ entries.Perm others

/-- Whether two sessions show the same, up to the order of the extensions. -/
structure ShowsSame (session twin : Session) : Prop where
  enabled : SameEntries session.enabledNames? twin.enabledNames?
  touched : SameEntries (session.catalog.names? session.state.touched)
    (twin.catalog.names? twin.state.touched)
  baseArch : session.state.baseArch.map Architecture.name =
    twin.state.baseArch.map Architecture.name
  features : SameEntries session.featureList? twin.featureList?

theorem Mirrors.shownToken_eq (mirrors : Mirrors left right session twin) :
    shownToken left session.state.enabled = shownToken right twin.state.enabled := by
  funext extension
  rw [shownToken, shownToken, mirrors.sets.enabled]

theorem Mirrors.showsSame (mirrors : Mirrors left right session twin)
    (catalogs : left.SameByName right) : ShowsSame session twin := by
  have distinct := catalogs.leftAccepted.nodup_names
  have twinDistinct := catalogs.rightAccepted.nodup_names
  have regular := mirrors.reachable.regular catalogs.leftAccepted
  have twinRegular := mirrors.twinReachable.regular catalogs.rightAccepted
  constructor
  · refine ⟨_, _, regular.enabledNames?_eq distinct, twinRegular.enabledNames?_eq twinDistinct, ?_⟩
    rw [funext mirrors.sets.enabled]
    exact catalogs.names.filter _
  · rw [regular.catalog_eq, twinRegular.catalog_eq]
    refine ⟨_, _, ExtensionCatalog.names?_eq distinct regular.isBelow_touched,
      ExtensionCatalog.names?_eq twinDistinct twinRegular.isBelow_touched, ?_⟩
    rw [funext mirrors.sets.touched]
    exact catalogs.names.filter _
  · have base := mirrors.baseArch
    generalize session.state.baseArch = architecture at base ⊢
    generalize twin.state.baseArch = other at base ⊢
    cases base with
    | none => rfl
    | some same =>
        rw [Option.map_some, Option.map_some, same.record]
  · refine ⟨_, _, regular.featureList?_eq_tokens distinct,
      twinRegular.featureList?_eq_tokens twinDistinct, ?_⟩
    rw [mirrors.shownToken_eq]
    simp only [mirrors.sets.touched]
    exact (catalogs.extensions.filter _).map _

end Session

/-! ## Other orders of a description -/

namespace CatalogSpec

variable {spec : CatalogSpec} {extensions : List ExtensionSpec} {dependencies : List DependencySpec}
  {processors : List ProcessorSpec}

theorem alike_of_perm (extensionsPerm : extensions.Perm spec.extensions)
    (dependenciesPerm : dependencies.Perm spec.dependencies)
    (processorsPerm : processors.Perm spec.processors)
    (distinct : (spec.processors.map ProcessorSpec.name).Nodup) :
    spec.Alike { spec with extensions, dependencies, processors } where
  extensions := extensionsPerm.symm
  dependencies _ := dependenciesPerm.mem_iff.symm
  architectures := rfl
  processors name := by
    have unique : {entry ∈ spec.processors | (entry.name == name) = true}.Subsingleton := by
      rintro entry ⟨listed, named⟩ other ⟨otherListed, otherNamed⟩
      apply List.inj_on_of_nodup_map distinct listed otherListed
      rw [eq_of_beq named, eq_of_beq otherNamed]
    have same := List.find?_eq_find?_of_perm processorsPerm.symm unique
    rw [same]
    cases processors.find? (·.name == name) with
    | none => exact .none
    | some entry =>
        have defaults : spec.defaultNames entry.arch =
            defaultNames { spec with extensions, dependencies, processors } entry.arch := by
          apply defaultNames_congr
          rfl
        refine .some ⟨rfl, fun listed => ?_⟩
        rw [impliedNames, impliedNames, defaults]
  cpuAliases := rfl
  extensionAliases := rfl

end CatalogSpec

namespace Session

/-- In whatever order a description lists its extensions, dependencies and processors, a catalog is
built of it, and every resolution fails with the same error or shows the same. -/
theorem resolve_ignores_order {spec : CatalogSpec} {catalog : ModelCatalog}
    (built : ModelCatalog.build spec = .ok catalog) {extensions : List ExtensionSpec}
    {dependencies : List DependencySpec} {processors : List ProcessorSpec}
    (extensionsPerm : extensions.Perm spec.extensions)
    (dependenciesPerm : dependencies.Perm spec.dependencies)
    (processorsPerm : processors.Perm spec.processors) :
    ∃ twin, ModelCatalog.build { spec with extensions, dependencies, processors } = .ok twin ∧
      ∀ negation request, SameOutcome ShowsSame
        (resolve catalog negation request) (resolve twin negation request) := by
  have represents := ModelCatalog.represents_build built
  have distinct := represents.consistent.distinctProcessors
  have alike := CatalogSpec.alike_of_perm extensionsPerm dependenciesPerm processorsPerm distinct
  have consistent := alike.consistent represents.consistent
    ((processorsPerm.map ProcessorSpec.name).nodup_iff.mpr distinct)
    fun processor member =>
      represents.consistent.supported processor (processorsPerm.mem_iff.mp member)
  rcases ModelCatalog.exists_build_eq_ok_iff.mpr consistent with ⟨twin, twinBuilt⟩
  refine ⟨twin, twinBuilt, fun negation request => ?_⟩
  have twinRepresents := ModelCatalog.represents_build twinBuilt
  have same := represents.sameByName twinRepresents alike
  exact (sameOutcome_resolve represents twinRepresents same negation request).imp
    fun _ _ mirrors => mirrors.showsSame same.extensions

theorem resolve_ignores_order_small :
    let spec := CatalogSpec.small
    let turned : CatalogSpec := { spec with
      extensions := spec.extensions.reverse
      dependencies := spec.dependencies.reverse
      processors := spec.processors.reverse }
    ∃ twin, ModelCatalog.build turned = .ok twin ∧ ∀ negation request,
      SameOutcome ShowsSame (resolve .small negation request) (resolve twin negation request) :=
  resolve_ignores_order ModelCatalog.build_small (List.reverse_perm _) (List.reverse_perm _)
    (List.reverse_perm _)

end Session

end TargetFeatures
