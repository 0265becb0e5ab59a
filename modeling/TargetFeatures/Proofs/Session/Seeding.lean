import TargetFeatures.Proofs.Session.Encoding
import TargetFeatures.Proofs.Spec.Passes

/-!
# What seeding adds to the defaults

Seeding a fresh session with an architecture enables the defaults of the architecture and everything
that they require. It enables more than the defaults when one of these directly requires an
extension that is no default: as long as no single step leads out of the defaults, no path does.
The validation looks at single steps only, on names, and reports the extensions that they lead to.
-/

namespace TargetFeatures

/-! ## One step out of a set -/

/-- Whether a set has an extension that directly requires the one with an id, which it has not. -/
def ExtensionCatalog.Lacks (catalog : ExtensionCatalog) (mask : Int) (required : Nat) : Prop :=
  Mask.contains mask required = false ∧
    ∃ id, Mask.contains mask id = true ∧ required ∈ catalog.prerequisites id

namespace Session

variable {catalog : ExtensionCatalog} {fresh : Session} {negation : String}
  {architecture : Architecture}

theorem isOn_addArchDefaults_iff (accepted : catalog.Accepted)
    (started : start? catalog negation = some fresh)
    (below : Mask.isBelow catalog.size architecture.defaults = true) (id : Nat) :
    (fresh.addArchDefaults architecture).state.IsOn id ↔
      ∃ first, Mask.contains architecture.defaults first = true ∧ catalog.Ancestor first id := by
  rw [eq_of_start? started, addArchDefaults,
    (State.isOn_seed accepted State.coherent_start architecture below id).1,
    or_iff_right State.not_isOn_start]
  refine exists_congr fun first => and_congr_left fun _ => ?_
  rw [Mask.mem_idsBelow]
  exact and_iff_right_of_imp (Mask.isBelow_iff.mp below first)

/-- Seeding adds nothing when no default lacks a direct prerequisite. -/
theorem enabled_addArchDefaults_eq_iff (accepted : catalog.Accepted)
    (started : start? catalog negation = some fresh)
    (below : Mask.isBelow catalog.size architecture.defaults = true) :
    ((fresh.addArchDefaults architecture).state.enabled : Int) = architecture.defaults ↔
      ∀ required, ¬catalog.Lacks architecture.defaults required := by
  have seeded := isOn_addArchDefaults_iff accepted started below
  constructor
  · rintro same required ⟨absent, id, chosen, direct⟩
    have on := (seeded required).mpr ⟨id, chosen, .of_prerequisite direct⟩
    have present : Mask.contains architecture.defaults required = true := by
      rw [← same]
      exact on
    rw [present] at absent
    cases absent
  · intro complete
    -- A path from a default stays among the defaults, since each of its steps does.
    have stays : ∀ first id, Mask.contains architecture.defaults first = true →
        catalog.Ancestor first id → Mask.contains architecture.defaults id = true := by
      intro first id chosen reached
      induction reached with
      | refl => exact chosen
      | @tail middle last _ direct ih =>
          by_contra absent
          exact complete last ⟨Bool.not_eq_true _ ▸ absent, middle, ih, direct⟩
    apply Mask.eq_of_contains
    intro id
    rw [Bool.eq_iff_iff]
    constructor
    · intro on
      rcases (seeded id).mp on with ⟨first, chosen, reached⟩
      exact stays first id chosen reached
    · intro chosen
      exact (seeded id).mpr ⟨id, chosen, .refl id⟩

end Session

/-! ## What the validation reports -/

/-- Whether a finding is the warning that the defaults of an architecture lack prerequisites. -/
def Finding.IsAboutDefaultsOf (architecture : String) (finding : Finding) : Prop :=
  finding.isError = false ∧ finding.category = "UNCLOSED_DEFAULTS" ∧
    finding.location = "architectures." ++ architecture

theorem Finding.isAboutDefaultsOf_iff {architecture : String} {finding : Finding} :
    finding.IsAboutDefaultsOf architecture ↔
      ∃ missing, finding = .unclosedDefaults architecture missing := by
  constructor
  · rintro ⟨_, category, location⟩
    cases finding with
    | unclosedDefaults other missing =>
        exact ⟨missing, by rw [(String.append_right_inj _).mp location]⟩
    | _ => simp [Finding.category] at category
  · rintro ⟨missing, rfl⟩
    exact ⟨rfl, rfl, rfl⟩

namespace CatalogSpec

variable {spec : CatalogSpec} {width : Int} {name : String} {missing : List String}

theorem mem_missingPrerequisites_iff {dependencies : List DependencySpec}
    {defaults : List String} :
    name ∈ missingPrerequisites dependencies defaults ↔
      name ∉ defaults ∧ ∃ dependency ∈ dependencies,
        dependency.later ∈ defaults ∧ dependency.earlier = name := by
  rw [missingPrerequisites, List.mem_mergeSort, List.mem_eraseDups, List.mem_map]
  constructor
  · rintro ⟨dependency, listed, rfl⟩
    rcases List.mem_filter.mp listed with ⟨declared, leads⟩
    simp only [Bool.and_eq_true, List.contains_eq_mem, decide_eq_true_eq, Bool.not_eq_true',
      decide_eq_false_iff_not] at leads
    exact ⟨leads.2, dependency, declared, leads.1, rfl⟩
  · rintro ⟨absent, dependency, declared, leads, rfl⟩
    refine ⟨dependency, List.mem_filter.mpr ⟨declared, ?_⟩, rfl⟩
    simp [leads, absent]

/-- The prerequisites that are reported missing are in order and without repetitions. -/
theorem pairwise_missingPrerequisites (dependencies : List DependencySpec)
    (defaults : List String) :
    (missingPrerequisites dependencies defaults).Pairwise (· < ·) := by
  rw [missingPrerequisites]
  generalize (dependencies.filter _).map DependencySpec.earlier = required
  have ordered : (required.eraseDups.mergeSort fun left right => decide (left ≤ right)).Pairwise
      (· ≤ ·) := by
    simpa only [decide_eq_true_eq] using
      @List.pairwise_mergeSort String (fun left right => decide (left ≤ right))
        (by simpa using fun _ _ _ => String.le_trans) (by simpa using String.le_total)
        required.eraseDups
  have distinct : (required.eraseDups.mergeSort fun left right => decide (left ≤ right)).Nodup :=
    (List.mergeSort_perm _ _).nodup_iff.mpr (nodup_eraseDups required)
  refine (ordered.and distinct).imp ?_
  rintro left right ⟨atMost, apart⟩
  rw [← String.not_le]
  exact fun back => apart (String.le_antisymm atMost back)

theorem unclosedDefaults_mem_closureFindings_iff {dependencies : List DependencySpec}
    {table : DefaultTable} :
    .unclosedDefaults name missing ∈ closureFindings dependencies table ↔
      missing ≠ [] ∧ ∃ defaults, (name, defaults) ∈ table ∧
        missingPrerequisites dependencies defaults = missing := by
  rw [closureFindings, List.mem_filterMap]
  constructor
  · rintro ⟨⟨architecture, defaults⟩, listed, found⟩
    dsimp only at found
    split at found
    · cases found
    · next some =>
        injection found with same
        injection same with sameName sameMissing
        subst sameName sameMissing
        exact ⟨by simpa using some, defaults, listed, rfl⟩
  · rintro ⟨some, defaults, listed, rfl⟩
    refine ⟨(name, defaults), listed, ?_⟩
    simp [some]

theorem isValid_referenceFindings (valid : isValid (spec.validate width) = true) :
    isValid (spec.referenceFindings width) = true := by
  by_contra defective
  rw [isValid, Bool.not_eq_true', Bool.not_eq_false] at defective
  rw [validate, if_pos defective, isValid, defective] at valid
  cases valid

/-- What the validation of a description without errors says about one of its architectures. -/
theorem unclosedDefaults_mem_validate_iff (valid : isValid (spec.validate width) = true)
    {entry : ArchitectureSpec} (listed : entry ∈ spec.architectures) :
    .unclosedDefaults entry.name missing ∈ spec.validate width ↔
      missing ≠ [] ∧
        missingPrerequisites spec.dependencies (spec.defaultNames entry.name) = missing := by
  have distinct : (spec.architectureDefaults.map Prod.fst).Nodup :=
    nodup_keys_checkArchitectures List.nodup_nil
  have known : (DefaultTable.get? spec.architectureDefaults entry.name).isSome = true :=
    isSome_get?_checkArchitectures.mpr (Or.inl (List.mem_map_of_mem listed))
  rcases Option.isSome_iff_exists.mp known with ⟨defaults, found⟩
  have names : spec.defaultNames entry.name = defaults := by
    rw [defaultNames, found, Option.getD_some]
  rw [mem_validate_iff, Finding.pass, findingsOf, if_pos (isValid_referenceFindings valid),
    unclosedDefaults_mem_closureFindings_iff, names]
  simp only [← lookup_eq_some_iff_mem distinct]
  rw [DefaultTable.get?] at found
  simp only [found, Option.some.injEq, exists_eq_left']

end CatalogSpec

/-! ## Both sides -/

namespace ModelCatalog.Represents

variable {spec : CatalogSpec} {catalog : ModelCatalog}

/-- The prerequisites that are missing by name are those that the set lacks. -/
theorem mem_missingPrerequisites_iff (represents : Represents spec catalog) {mask : Int}
    {defaults : List String} (lists : catalog.extensions.Lists mask defaults) {name : String} :
    name ∈ CatalogSpec.missingPrerequisites spec.dependencies defaults ↔
      ∃ required, catalog.extensions.find? name = some required ∧
        catalog.extensions.Lacks mask required := by
  rw [CatalogSpec.mem_missingPrerequisites_iff]
  constructor
  · rintro ⟨absent, dependency, declared, leads, rfl⟩
    have known := represents.consistent.known dependency declared
    rw [← represents.names_eq, ← ExtensionCatalog.exists_find?_iff,
      ← ExtensionCatalog.exists_find?_iff] at known
    rcases known with ⟨⟨required, found⟩, ⟨id, foundLater⟩⟩
    refine ⟨required, found, ?_, id, ?_, ?_⟩
    · rw [← Bool.not_eq_true, lists required]
      rintro ⟨other, listed, same⟩
      exact absent (ExtensionCatalog.name_eq_of_find? same found ▸ listed)
    · exact (lists id).mpr ⟨dependency.later, leads, foundLater⟩
    · rw [ExtensionCatalog.mem_prerequisites, represents.edges]
      exact ⟨dependency, declared, found, foundLater⟩
  · rintro ⟨required, found, absent, id, contained, direct⟩
    rw [ExtensionCatalog.mem_prerequisites, represents.edges] at direct
    rcases direct with ⟨dependency, declared, foundEarlier, foundLater⟩
    rcases (lists id).mp contained with ⟨other, listed, foundOther⟩
    refine ⟨?_, dependency, declared, ?_, ?_⟩
    · intro listedName
      rw [(lists required).mpr ⟨name, listedName, found⟩] at absent
      cases absent
    · exact ExtensionCatalog.name_eq_of_find? foundOther foundLater ▸ listed
    · exact ExtensionCatalog.name_eq_of_find? foundEarlier found

theorem exists_unclosed_iff (represents : Represents spec catalog) {width : Int}
    (valid : CatalogSpec.isValid (spec.validate width) = true) {entry : ArchitectureSpec}
    (listed : entry ∈ spec.architectures) {mask : Int}
    (lists : catalog.extensions.Lists mask (spec.defaultNames entry.name)) :
    (∃ finding ∈ spec.validate width, finding.IsAboutDefaultsOf entry.name) ↔
      ∃ required, catalog.extensions.Lacks mask required := by
  constructor
  · rintro ⟨finding, reported, about⟩
    rcases Finding.isAboutDefaultsOf_iff.mp about with ⟨missing, rfl⟩
    rcases (CatalogSpec.unclosedDefaults_mem_validate_iff valid listed).mp reported with
      ⟨some, rfl⟩
    rcases List.exists_mem_of_ne_nil _ some with ⟨name, member⟩
    rcases (represents.mem_missingPrerequisites_iff lists).mp member with ⟨required, _, lacks⟩
    exact ⟨required, lacks⟩
  · rintro ⟨required, lacks⟩
    rcases lacks.2 with ⟨_, _, direct⟩
    rcases ExtensionCatalog.exists_name_of_lt represents.accepted.nodup_names
      (represents.accepted.lt_size_of_prerequisite direct).1 with ⟨name, found⟩
    have member := (represents.mem_missingPrerequisites_iff lists).mpr ⟨required, found, lacks⟩
    refine ⟨_, (CatalogSpec.unclosedDefaults_mem_validate_iff valid listed).mpr
      ⟨List.ne_nil_of_mem member, rfl⟩, rfl, rfl, rfl⟩

end ModelCatalog.Represents

namespace Session

/-- For a description without errors, the validation reports the defaults of an architecture exactly
when seeding a fresh session with it enables more than these defaults. The prerequisites that the
report names are those that a default directly requires and that are no defaults. -/
theorem unclosed_defaults_iff_seeding_adds (spec : CatalogSpec)
    (valid : CatalogSpec.isValid (spec.validate ExtensionCatalog.defaultWidth) = true) :
    ∃ catalog, ModelCatalog.build spec = .ok catalog ∧
      ∀ entry ∈ spec.architectures, ∃ architecture,
        catalog.parseArch? entry.name = some architecture ∧
        (∀ negation fresh, start? catalog.extensions negation = some fresh →
          (fresh.addArchDefaults architecture).failure = none ∧
          ((∃ finding ∈ spec.validate ExtensionCatalog.defaultWidth,
              finding.IsAboutDefaultsOf entry.name) ↔
            ((fresh.addArchDefaults architecture).state.enabled : Int) ≠
              architecture.defaults)) ∧
        ∀ finding ∈ spec.validate ExtensionCatalog.defaultWidth,
          finding.IsAboutDefaultsOf entry.name → ∃ missing,
            finding.message = "defaults of " ++ entry.name ++ " omit prerequisites: " ++
              ", ".intercalate missing ∧
            missing.Pairwise (· < ·) ∧
            ∀ name, name ∈ missing ↔ ∃ required, catalog.extensions.find? name = some required ∧
              catalog.extensions.Lacks architecture.defaults required := by
  have consistent := (CatalogSpec.isValid_validate_iff.mp valid).1
  rcases ModelCatalog.exists_build_eq_ok_iff.mpr consistent with ⟨catalog, built⟩
  have represents := ModelCatalog.represents_build built
  refine ⟨catalog, built, fun entry listed => ?_⟩
  rcases represents.exists_parseArch?_eq_some listed with ⟨architecture, found, lists⟩
  refine ⟨architecture, found, ?_, ?_⟩
  · intro negation fresh started
    have reachable : Reachable catalog.extensions fresh :=
      ⟨negation, fresh, [], started, by simp, rfl⟩
    have onCatalog : (Operation.archDefaults architecture).OnCatalog catalog.extensions :=
      lists.isBelow
    refine ⟨reachable.failure_perform represents.accepted onCatalog, ?_⟩
    rw [represents.exists_unclosed_iff valid listed lists, ne_eq,
      enabled_addArchDefaults_eq_iff represents.accepted started lists.isBelow, not_forall_not]
  · intro finding reported about
    rcases Finding.isAboutDefaultsOf_iff.mp about with ⟨missing, rfl⟩
    rcases (CatalogSpec.unclosedDefaults_mem_validate_iff valid listed).mp reported with ⟨_, rfl⟩
    exact ⟨_, rfl, CatalogSpec.pairwise_missingPrerequisites _ _,
      fun name => represents.mem_missingPrerequisites_iff lists⟩

theorem unclosed_defaults_iff_seeding_adds_small :
    let narrow : ArchitectureSpec := ⟨"v8a", 8, 0, .application, "+v8a", none, ["simd"], []⟩
    let whole : ArchitectureSpec := ⟨"v8r", 8, 0, .realTime, "+v8r", some "v8a", ["fp"], []⟩
    let spec : CatalogSpec := { CatalogSpec.small with architectures := [narrow, whole] }
    CatalogSpec.isValid (spec.validate ExtensionCatalog.defaultWidth) = true ∧
      ∃ catalog, ModelCatalog.build spec = .ok catalog ∧
        ∃ fresh, start? catalog.extensions "no" = some fresh ∧
          (∃ architecture, catalog.parseArch? "v8a" = some architecture ∧
            ((fresh.addArchDefaults architecture).state.enabled : Int) ≠ architecture.defaults) ∧
          ∃ architecture, catalog.parseArch? "v8r" = some architecture ∧
            ((fresh.addArchDefaults architecture).state.enabled : Int) = architecture.defaults := by
  intro narrow whole spec
  have findings : spec.validate ExtensionCatalog.defaultWidth =
      [.duplicateDependency 2 "fp" "simd", .redundantDefault 0 "cortex" "v8a" "simd",
        .unclosedDefaults "v8a" ["fp"]] := by decide +kernel
  have valid : CatalogSpec.isValid (spec.validate ExtensionCatalog.defaultWidth) = true := by
    rw [findings]
    rfl
  rcases unclosed_defaults_iff_seeding_adds spec valid with ⟨catalog, built, each⟩
  rcases each narrow (by simp [spec]) with ⟨first, foundFirst, seedsFirst, _⟩
  rcases each whole (by simp [spec]) with ⟨second, foundSecond, seedsSecond, _⟩
  rw [findings] at seedsFirst seedsSecond
  refine ⟨valid, catalog, built, _, rfl, ⟨first, foundFirst, ?_⟩, second, foundSecond, ?_⟩
  · exact (seedsFirst "no" _ rfl).2.mp ⟨.unclosedDefaults "v8a" ["fp"], by simp, rfl, rfl, rfl⟩
  · by_contra adds
    rcases (seedsSecond "no" _ rfl).2.mpr adds with ⟨finding, reported, about⟩
    rcases Finding.isAboutDefaultsOf_iff.mp about with ⟨missing, rfl⟩
    simp [whole] at reported

end Session

end TargetFeatures
