import TargetFeatures.Proofs.Session.Encoding
import TargetFeatures.Proofs.Spec.Passes

/-!
# Acting on the suggestions of a validation

A validation suggests to delete dependencies that are listed again and to take names off processors
whose architecture has them by default. In a description without errors the first occurrence of
every dependency stays and a processor still implies what it implied, so the tidied description is
alike. Since it also lists the same extensions in the same order, a resolution ends in the very same
state.
-/

namespace TargetFeatures

namespace CatalogSpec

/-! ## What the suggestions are about -/

theorem pair_eq_iff {dependency other : DependencySpec} :
    (dependency.earlier, dependency.later) = (other.earlier, other.later) ↔ dependency = other := by
  cases dependency
  cases other
  simp

theorem mem_dependencyFindings_iff {names : List String} {position place : Nat}
    {seen : List (String × String)} {dependencies : List DependencySpec}
    (known : ∀ dependency ∈ dependencies, dependency.earlier ∈ names ∧ dependency.later ∈ names)
    {dependency : DependencySpec} :
    .duplicateDependency place dependency.earlier dependency.later ∈
        dependencyFindings names position seen dependencies ↔
      ∃ index, place = position + index ∧ dependencies[index]? = some dependency ∧
        ((dependency.earlier, dependency.later) ∈ seen ∨ dependency ∈ dependencies.take index) := by
  induction dependencies generalizing position seen with
  | nil => simp [dependencyFindings]
  | cons first rest ih =>
      rw [List.forall_mem_cons] at known
      have unknown :
          ([first.earlier, first.later].filter fun name => !names.contains name) = [] := by
        simp [known.1]
      rw [dependencyFindings]
      dsimp only
      rw [unknown, List.isEmpty_nil, if_pos rfl, List.mem_append, List.mem_ite_nil_right,
        List.mem_singleton, ih known.2, List.contains_iff_mem]
      constructor
      · rintro (⟨again, same⟩ | ⟨index, rfl, found, before⟩)
        · rw [Finding.duplicateDependency.injEq] at same
          have here : dependency = first := pair_eq_iff.mp (Prod.ext same.2.1 same.2.2)
          exact ⟨0, same.1, by rw [here]; rfl, Or.inl (here ▸ again)⟩
        · refine ⟨index + 1, by omega, found, ?_⟩
          rw [List.mem_cons, pair_eq_iff] at before
          rw [List.take_succ_cons, List.mem_cons]
          tauto
      · rintro ⟨index, rfl, found, before⟩
        cases index with
        | zero =>
            rw [List.getElem?_cons_zero, Option.some.injEq] at found
            subst found
            exact Or.inl ⟨before.resolve_right (by simp), rfl⟩
        | succ index =>
            refine Or.inr ⟨index, by omega, found, ?_⟩
            rw [List.take_succ_cons, List.mem_cons] at before
            rw [List.mem_cons, pair_eq_iff]
            tauto

theorem listedFinding_eq_redundantDefault_iff {names inherited : List String}
    {position place : Nat} {processor : ProcessorSpec} {name owner architecture listed : String} :
    listedFinding names inherited position processor name =
        some (.redundantDefault place owner architecture listed) ↔
      (position = place ∧ processor.name = owner ∧ processor.arch = architecture ∧ name = listed) ∧
        name ∈ names ∧ name ∈ inherited := by
  rw [listedFinding]
  by_cases known : name ∈ names <;> by_cases redundant : name ∈ inherited <;>
    simp [known, redundant]

theorem mem_processorFindings_iff {names : List String} {table : DefaultTable}
    {position place : Nat} {seen : List String} {processors : List ProcessorSpec}
    {owner architecture listed : String} :
    .redundantDefault place owner architecture listed ∈
        processorFindings names table position seen processors ↔
      ∃ index processor, place = position + index ∧ processors[index]? = some processor ∧
        processor.name = owner ∧ processor.arch = architecture ∧ listed ∈ processor.extensions ∧
        listed ∈ names ∧ listed ∈ (DefaultTable.get? table architecture).getD [] := by
  induction processors generalizing position seen with
  | nil => simp [processorFindings]
  | cons first rest ih =>
      have here : .redundantDefault place owner architecture listed ∈
          first.extensions.filterMap (listedFinding names
            ((DefaultTable.get? table first.arch).getD []) position first) ↔
          place = position ∧ first.name = owner ∧ first.arch = architecture ∧
            listed ∈ first.extensions ∧ listed ∈ names ∧
            listed ∈ (DefaultTable.get? table architecture).getD [] := by
        simp only [List.mem_filterMap, listedFinding_eq_redundantDefault_iff]
        constructor
        · rintro ⟨name, member, ⟨rfl, rfl, rfl, rfl⟩, known, redundant⟩
          exact ⟨rfl, rfl, rfl, member, known, redundant⟩
        · rintro ⟨rfl, rfl, rfl, member, known, redundant⟩
          exact ⟨listed, member, ⟨rfl, rfl, rfl, rfl⟩, known, redundant⟩
      rw [processorFindings, List.mem_append, List.mem_append, List.mem_append,
        List.mem_ite_nil_right, List.mem_ite_nil_left, here, ih]
      simp only [List.mem_singleton, reduceCtorEq, and_false, false_or]
      constructor
      · rintro (⟨rfl, same⟩ | ⟨index, processor, rfl, found, same⟩)
        · exact ⟨0, first, rfl, rfl, same⟩
        · exact ⟨index + 1, processor, by omega, found, same⟩
      · rintro ⟨index, processor, rfl, found, same⟩
        cases index with
        | zero =>
            rw [List.getElem?_cons_zero, Option.some.injEq] at found
            subst found
            exact Or.inl ⟨rfl, same⟩
        | succ index => exact Or.inr ⟨index, processor, by omega, found, same⟩

/-! ## The tidied description -/

/-- A description without the dependencies and the names of processors that some findings suggest to
remove. -/
def withoutFlagged (spec : CatalogSpec) (findings : List Finding) : CatalogSpec :=
  { spec with
    dependencies := (spec.dependencies.zipIdx.filter fun (dependency, position) =>
      !findings.contains
        (.duplicateDependency position dependency.earlier dependency.later)).map Prod.fst
    processors := spec.processors.zipIdx.map fun (processor, position) =>
      { processor with
        extensions := processor.extensions.filter fun name =>
          !findings.contains
            (.redundantDefault position processor.name processor.arch name) } }

/-- A description without what its validation suggests to remove. -/
def tidied (spec : CatalogSpec) : CatalogSpec :=
  spec.withoutFlagged (spec.validate ExtensionCatalog.defaultWidth)

theorem defaultNames_tidied (spec : CatalogSpec) (architecture : String) :
    spec.tidied.defaultNames architecture = spec.defaultNames architecture := by
  apply defaultNames_congr
  rfl

/-- A processor without the names that its architecture has by default. -/
def withoutDefaults (spec : CatalogSpec) (processor : ProcessorSpec) : ProcessorSpec :=
  { processor with
    extensions := processor.extensions.filter fun name =>
      !(spec.defaultNames processor.arch).contains name }

section

variable {spec : CatalogSpec} (consistent : spec.Consistent ExtensionCatalog.defaultWidth)

include consistent

theorem flags_dependency_iff {dependency : DependencySpec} {position : Nat} :
    .duplicateDependency position dependency.earlier dependency.later ∈
        spec.validate ExtensionCatalog.defaultWidth ↔
      spec.dependencies[position]? = some dependency ∧
        dependency ∈ spec.dependencies.take position := by
  have reported := @mem_dependencyFindings_iff _ 0 position [] _ consistent.known dependency
  rw [mem_validate_iff]
  refine reported.trans ?_
  simp

theorem mem_tidied_dependencies_iff {dependency : DependencySpec} :
    dependency ∈ spec.tidied.dependencies ↔ dependency ∈ spec.dependencies := by
  simp only [tidied, withoutFlagged, List.mem_map, List.mem_filter, List.mem_zipIdx_iff_getElem?,
    Prod.exists, exists_and_right, exists_eq_right, Bool.not_eq_true', List.contains_eq_mem,
    decide_eq_false_iff_not, flags_dependency_iff consistent]
  constructor
  · rintro ⟨position, found, _⟩
    exact List.mem_of_getElem? found
  · intro listed
    -- The first occurrence is not flagged.
    refine ⟨spec.dependencies.idxOf dependency, List.getElem?_idxOf listed, fun flagged => ?_⟩
    exact Nat.lt_irrefl _ ((List.mem_take_iff_idxOf_lt listed).mp flagged.2)

theorem nodup_tidied_dependencies : spec.tidied.dependencies.Nodup := by
  rw [List.Nodup, tidied, withoutFlagged, List.pairwise_map]
  have ordered : spec.dependencies.zipIdx.Pairwise fun first second => first.2 < second.2 := by
    rw [← List.pairwise_map, List.zipIdx_map_snd]
    exact List.pairwise_lt_range'
  refine (ordered.filter _).imp_of_mem ?_
  rintro ⟨dependency, first⟩ ⟨other, second⟩ early late before rfl
  simp only [List.mem_filter, List.mem_zipIdx_iff_getElem?, Bool.not_eq_true',
    List.contains_eq_mem, decide_eq_false_iff_not, flags_dependency_iff consistent] at early late
  -- An entry that repeats an earlier one is flagged, so it was not kept.
  refine late.2 ⟨late.1, List.mem_of_getElem? (i := first) ?_⟩
  rw [List.getElem?_take_of_lt before]
  exact early.1

theorem flags_default_iff {processor : ProcessorSpec} {position : Nat}
    (found : spec.processors[position]? = some processor) {name : String}
    (listed : name ∈ processor.extensions) :
    .redundantDefault position processor.name processor.arch name ∈
        spec.validate ExtensionCatalog.defaultWidth ↔
      name ∈ spec.defaultNames processor.arch := by
  have known := (consistent.supported processor (List.mem_of_getElem? found)).2 name listed
  rw [mem_validate_iff]
  refine mem_processorFindings_iff.trans ?_
  constructor
  · rintro ⟨_, _, _, _, _, _, _, _, redundant⟩
    exact redundant
  · intro redundant
    exact ⟨position, processor, (Nat.zero_add _).symm, found, rfl, rfl, listed, known, redundant⟩

theorem tidied_processors :
    spec.tidied.processors = spec.processors.map spec.withoutDefaults := by
  rw [tidied, withoutFlagged]
  apply List.ext_getElem?
  intro position
  rw [List.getElem?_map, List.getElem?_map, List.getElem?_zipIdx, Nat.zero_add]
  cases found : spec.processors[position]? with
  | none => rfl
  | some processor =>
      have kept : processor.extensions.filter (fun name =>
          !(spec.validate ExtensionCatalog.defaultWidth).contains
            (.redundantDefault position processor.name processor.arch name)) =
          processor.extensions.filter fun name =>
            !(spec.defaultNames processor.arch).contains name := by
        refine List.filter_congr fun name listed => ?_
        have flags := flags_default_iff consistent found listed
        simp only [List.contains_eq_mem, flags]
      rw [Option.map_some, Option.map_some, Option.map_some, withoutDefaults, ← kept]

theorem alike_tidied : spec.Alike spec.tidied where
  extensions := .refl _
  dependencies _ := (mem_tidied_dependencies_iff consistent).symm
  architectures := rfl
  processors name := by
    rw [tidied_processors consistent, List.find?_map]
    have test : (fun entry : ProcessorSpec => entry.name == name) ∘ spec.withoutDefaults =
        fun entry => entry.name == name := rfl
    rw [test]
    cases spec.processors.find? (·.name == name) with
    | none => exact .none
    | some processor =>
        refine .some ⟨rfl, fun listed => ?_⟩
        rw [impliedNames, impliedNames, withoutDefaults, defaultNames_tidied]
        simp only [List.mem_append, List.mem_filter, List.contains_eq_mem,
          Bool.not_eq_true', decide_eq_false_iff_not]
        tauto
  cpuAliases := rfl
  extensionAliases := rfl

theorem consistent_tidied : spec.tidied.Consistent ExtensionCatalog.defaultWidth := by
  apply (alike_tidied consistent).consistent consistent
  · rw [tidied_processors consistent, List.map_map]
    exact consistent.distinctProcessors
  · rw [tidied_processors consistent, List.forall_mem_map]
    intro processor listed
    rcases consistent.supported processor listed with ⟨declared, known⟩
    exact ⟨declared, fun name member => known name (List.mem_filter.mp member).1⟩

/-- The validation of the tidied description has nothing more to suggest. -/
theorem not_flagged_tidied :
    (∀ position earlier later, .duplicateDependency position earlier later ∉
      spec.tidied.validate ExtensionCatalog.defaultWidth) ∧
    ∀ position owner architecture name, .redundantDefault position owner architecture name ∉
      spec.tidied.validate ExtensionCatalog.defaultWidth := by
  have consistentTidied := consistent_tidied consistent
  constructor
  · intro position earlier later reported
    rcases (@flags_dependency_iff _ consistentTidied ⟨earlier, later⟩ position).mp reported with
      ⟨found, before⟩
    have first := List.mem_of_getElem? found
    rw [List.mem_take_iff_idxOf_lt first] at before
    have unique := (nodup_tidied_dependencies consistent).idxOf_getElem position
      (List.getElem?_eq_some_iff.mp found).1
    rw [(List.getElem?_eq_some_iff.mp found).2] at unique
    omega
  · intro position owner architecture name reported
    rcases mem_processorFindings_iff.mp (mem_validate_iff.mp reported) with
      ⟨_, processor, _, found, _, rfl, listed, _, redundant⟩
    have member := List.mem_of_getElem? found
    rw [tidied_processors consistent, List.mem_map] at member
    rcases member with ⟨origin, _, rfl⟩
    rw [withoutDefaults, List.mem_filter] at listed
    have inherited : name ∈ spec.tidied.defaultNames origin.arch := redundant
    rw [defaultNames_tidied] at inherited
    simp [inherited] at listed

end

theorem isValid_tidied {spec : CatalogSpec}
    (valid : isValid (spec.validate ExtensionCatalog.defaultWidth) = true) :
    isValid (spec.tidied.validate ExtensionCatalog.defaultWidth) = true := by
  rcases isValid_validate_iff.mp valid with ⟨consistent, targets⟩
  refine isValid_validate_iff.mpr ⟨consistent_tidied consistent, ?_, targets.extension⟩
  rw [tidied_processors consistent, List.map_map]
  exact targets.cpu

end CatalogSpec

namespace Session

/-! ## Sessions on the same list of extensions -/

section

variable {left right : ExtensionCatalog} {session twin : Session}

theorem Mirrors.state_eq (mirrors : Mirrors left right session twin)
    (catalogs : left.SameByName right) (same : left.extensions = right.extensions) :
    session.state = twin.state := by
  have distinct := catalogs.leftAccepted.nodup_names
  have regular := mirrors.reachable.regular catalogs.leftAccepted
  have twinRegular := mirrors.twinReachable.regular catalogs.rightAccepted
  have enabled := ExtensionCatalog.eq_of_includes same distinct regular.isBelow_enabled
    twinRegular.isBelow_enabled mirrors.sets.enabled
  have touched := ExtensionCatalog.eq_of_includes same distinct regular.isBelow_touched
    twinRegular.isBelow_touched mirrors.sets.touched
  have baseArch : session.state.baseArch = twin.state.baseArch := by
    have base := mirrors.baseArch
    generalize session.state.baseArch = architecture at base ⊢
    generalize twin.state.baseArch = other at base ⊢
    cases base with
    | none => rfl
    | some alike =>
        have defaults := ExtensionCatalog.eq_of_includes same distinct alike.defaults.leftBelow
          alike.defaults.rightBelow alike.defaults.includes
        rw [alike.record, ← defaults]
  apply State.eq_of_members
  · exact Mask.eq_iff.mp (Int.ofNat.inj enabled)
  · exact Mask.eq_iff.mp (Int.ofNat.inj touched)
  · exact baseArch

theorem Mirrors.featureList?_eq (mirrors : Mirrors left right session twin)
    (catalogs : left.SameByName right) (same : left.extensions = right.extensions) :
    ∃ tokens, session.featureList? = some tokens ∧ twin.featureList? = some tokens := by
  have regular := mirrors.reachable.regular catalogs.leftAccepted
  have twinRegular := mirrors.twinReachable.regular catalogs.rightAccepted
  refine ⟨_, regular.featureList?_eq_tokens catalogs.leftAccepted.nodup_names, ?_⟩
  rw [twinRegular.featureList?_eq_tokens catalogs.rightAccepted.nodup_names,
    mirrors.shownToken_eq, same]
  simp only [mirrors.sets.touched]

end

/-- Whether two sessions are in the same state and show the same feature list. -/
structure SameResult (session twin : Session) : Prop where
  state : session.state = twin.state
  features : ∃ tokens, session.featureList? = some tokens ∧ twin.featureList? = some tokens

/-- A description without errors still has none after it was tidied, and its validation has nothing
more to suggest. Catalogs are built of both, and every resolution fails with the same error on both
or ends in the same state with the same feature list. -/
theorem tidied_keeps_results {spec : CatalogSpec}
    (valid : CatalogSpec.isValid (spec.validate ExtensionCatalog.defaultWidth) = true) :
    CatalogSpec.isValid (spec.tidied.validate ExtensionCatalog.defaultWidth) = true ∧
    (∀ finding ∈ spec.tidied.validate ExtensionCatalog.defaultWidth,
      finding.category ≠ "DUPLICATE_DEPENDENCY" ∧ finding.category ≠ "REDUNDANT_DEFAULT") ∧
    ∃ catalog twin, ModelCatalog.build spec = .ok catalog ∧
      ModelCatalog.build spec.tidied = .ok twin ∧
      ∀ negation request, SameOutcome SameResult
        (resolve catalog negation request) (resolve twin negation request) := by
  have consistent := (CatalogSpec.isValid_validate_iff.mp valid).1
  refine ⟨CatalogSpec.isValid_tidied valid, ?_, ?_⟩
  · intro finding reported
    have unflagged := CatalogSpec.not_flagged_tidied consistent
    cases finding with
    | duplicateDependency position earlier later => exact absurd reported (unflagged.1 _ _ _)
    | redundantDefault position owner architecture name =>
        exact absurd reported (unflagged.2 _ _ _ _)
    | _ => exact ⟨by simp [Finding.category], by simp [Finding.category]⟩
  · have alike := CatalogSpec.alike_tidied consistent
    rcases ModelCatalog.exists_build_eq_ok_iff.mpr consistent with ⟨catalog, built⟩
    rcases ModelCatalog.exists_build_eq_ok_iff.mpr (CatalogSpec.consistent_tidied consistent) with
      ⟨twin, twinBuilt⟩
    have represents := ModelCatalog.represents_build built
    have twinRepresents := ModelCatalog.represents_build twinBuilt
    have same := represents.sameByName twinRepresents alike
    have sameExtensions : catalog.extensions.extensions = twin.extensions.extensions := by
      rw [represents.extensions, twinRepresents.extensions]
      rfl
    refine ⟨catalog, twin, built, twinBuilt, fun negation request => ?_⟩
    exact (sameOutcome_resolve represents twinRepresents same negation request).imp
      fun _ _ mirrors => ⟨mirrors.state_eq same.extensions sameExtensions,
        mirrors.featureList?_eq same.extensions sameExtensions⟩

theorem tidied_keeps_results_small :
    CatalogSpec.small.tidied.dependencies = [⟨"fp", "simd"⟩, ⟨"simd", "sve"⟩] ∧
    CatalogSpec.small.tidied.processors =
      [⟨"cortex", "v8a", ["crc"]⟩, ⟨"neo", "v8r", ["sve"]⟩] ∧
    CatalogSpec.isValid (CatalogSpec.small.tidied.validate ExtensionCatalog.defaultWidth) = true ∧
    ∃ catalog twin, ModelCatalog.build .small = .ok catalog ∧
      ModelCatalog.build CatalogSpec.small.tidied = .ok twin ∧
      ∀ negation request, SameOutcome SameResult
        (resolve catalog negation request) (resolve twin negation request) := by
  have valid :
      CatalogSpec.isValid (CatalogSpec.small.validate ExtensionCatalog.defaultWidth) = true := by
    decide +kernel
  rcases tidied_keeps_results valid with ⟨stillValid, _, results⟩
  exact ⟨by decide +kernel, by decide +kernel, stillValid, results⟩

end Session

end TargetFeatures
