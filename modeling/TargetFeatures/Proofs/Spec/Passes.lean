import TargetFeatures.Proofs.Spec.Consistency

/-!
# Which pass of the validation reports what

A validation is made of passes over the parts of a description, and every kind of finding comes from
one of them. Whether a finding is reported can therefore be read off that pass alone
(`mem_validate_iff`). Together with `harmless_validate` this says what a description without errors
satisfies: it is consistent, and the targets of all alternate names are known.
-/

namespace TargetFeatures

namespace Finding

/-- The passes of a validation. -/
inductive Pass where
  | extensions
  | dependencies
  | cycles
  | architectures
  | processors
  | aliases (table : AliasKind)
  | closure
  deriving DecidableEq, Repr

/-- The pass that reports a finding. -/
def pass : Finding → Pass
  | .duplicateExtension .. => .extensions
  | .tooManyExtensions .. => .extensions
  | .unknownInDependency .. => .dependencies
  | .duplicateDependency .. => .dependencies
  | .cycle .. => .cycles
  | .duplicateArchitecture .. => .architectures
  | .undeclaredBase .. => .architectures
  | .unknownInArchitecture .. => .architectures
  | .duplicateProcessor .. => .processors
  | .unknownArchitecture .. => .processors
  | .unknownInProcessor .. => .processors
  | .redundantDefault .. => .processors
  | .aliasTarget table _ _ => .aliases table
  | .aliasShadowsName table _ => .aliases table
  | .unclosedDefaults .. => .closure

end Finding

namespace CatalogSpec

variable {names : List String} {finding : Finding}

theorem pass_extensionFindings {width : Int} (reported : finding ∈ extensionFindings width names) :
    finding.pass = .extensions := by
  have repeated : ∀ position seen, finding ∈ duplicateExtensions position seen names →
      finding.pass = .extensions := by
    clear reported
    induction names with
    | nil => simp [duplicateExtensions]
    | cons name rest ih =>
        intro position seen reported
        rw [duplicateExtensions] at reported
        rcases List.mem_append.mp reported with here | later
        · rw [List.mem_ite_nil_right, List.mem_singleton] at here
          exact here.2 ▸ rfl
        · exact ih _ _ later
  rcases List.mem_append.mp reported with early | late
  · exact repeated _ _ early
  · rw [List.mem_ite_nil_right, List.mem_singleton] at late
    exact late.2 ▸ rfl

theorem pass_dependencyFindings {position : Nat} {seen : List (String × String)}
    {dependencies : List DependencySpec}
    (reported : finding ∈ dependencyFindings names position seen dependencies) :
    finding.pass = .dependencies := by
  induction dependencies generalizing position seen with
  | nil => cases reported
  | cons dependency rest ih =>
      rw [dependencyFindings] at reported
      dsimp only at reported
      split at reported
      · rcases List.mem_append.mp reported with here | later
        · rw [List.mem_ite_nil_right, List.mem_singleton] at here
          exact here.2 ▸ rfl
        · exact ih later
      · rcases List.mem_append.mp reported with here | later
        · rcases List.mem_map.mp here with ⟨name, _, rfl⟩
          rfl
        · exact ih later

theorem pass_cycleFindings {dependencies : List DependencySpec}
    (reported : finding ∈ cycleFindings names dependencies) : finding.pass = .cycles := by
  rw [cycleFindings] at reported
  split at reported
  · exact List.mem_singleton.mp reported ▸ rfl
  · cases reported

theorem pass_checkArchitectures {position : Nat} {table : DefaultTable}
    {architectures : List ArchitectureSpec}
    (reported : finding ∈ (checkArchitectures names position table architectures).1) :
    finding.pass = .architectures := by
  induction architectures generalizing position table with
  | nil => cases reported
  | cons architecture rest ih =>
      rw [checkArchitectures] at reported
      rcases List.mem_append.mp reported with here | later
      · rw [architectureFindings, List.mem_append, List.mem_append] at here
        rcases here with (repeated | undeclared) | unknown
        · rw [List.mem_ite_nil_right, List.mem_singleton] at repeated
          exact repeated.2 ▸ rfl
        · split at undeclared
          · cases undeclared
          · rw [List.mem_ite_nil_left, List.mem_singleton] at undeclared
            exact undeclared.2 ▸ rfl
        · rcases List.mem_map.mp unknown with ⟨name, _, rfl⟩
          rfl
      · exact ih later

theorem pass_processorFindings {table : DefaultTable} {position : Nat} {seen : List String}
    {processors : List ProcessorSpec}
    (reported : finding ∈ processorFindings names table position seen processors) :
    finding.pass = .processors := by
  induction processors generalizing position seen with
  | nil => cases reported
  | cons processor rest ih =>
      rw [processorFindings, List.mem_append, List.mem_append, List.mem_append] at reported
      rcases reported with ((repeated | unknown) | listed) | later
      · rw [List.mem_ite_nil_right, List.mem_singleton] at repeated
        exact repeated.2 ▸ rfl
      · rw [List.mem_ite_nil_left, List.mem_singleton] at unknown
        exact unknown.2 ▸ rfl
      · rcases List.mem_filterMap.mp listed with ⟨name, _, found⟩
        rw [listedFinding] at found
        split at found
        · rw [← Option.some.inj found]
          rfl
        · split at found
          · rw [← Option.some.inj found]
            rfl
          · cases found
      · exact ih later

theorem mem_aliasFindings_iff {kind : AliasKind} {canonical : List String} {table : AliasTable} :
    finding ∈ aliasFindings kind canonical table ↔
      ∃ entry ∈ table.entries,
        (entry.2 ∉ canonical ∧ finding = .aliasTarget kind entry.1 entry.2) ∨
          (entry.1 ∈ canonical ∧ finding = .aliasShadowsName kind entry.1) := by
  rw [aliasFindings, List.mem_flatMap]
  refine exists_congr fun entry => and_congr_right fun _ => ?_
  rw [List.mem_append]
  by_cases target : entry.2 ∈ canonical <;> by_cases shadows : entry.1 ∈ canonical <;>
    simp [target, shadows]

theorem aliasTarget_mem_aliasFindings_iff {kind : AliasKind} {canonical : List String}
    {table : AliasTable} {alternate name : String} :
    .aliasTarget kind alternate name ∈ aliasFindings kind canonical table ↔
      (alternate, name) ∈ table.entries ∧ name ∉ canonical := by
  simp only [mem_aliasFindings_iff, Finding.aliasTarget.injEq, true_and, reduceCtorEq, and_false,
    or_false]
  constructor
  · rintro ⟨⟨_, _⟩, listed, unknown, rfl, rfl⟩
    exact ⟨listed, unknown⟩
  · rintro ⟨listed, unknown⟩
    exact ⟨_, listed, unknown, rfl, rfl⟩

theorem pass_aliasFindings {kind : AliasKind} {canonical : List String} {table : AliasTable}
    (reported : finding ∈ aliasFindings kind canonical table) : finding.pass = .aliases kind := by
  rcases mem_aliasFindings_iff.mp reported with ⟨entry, _, ⟨_, rfl⟩ | ⟨_, rfl⟩⟩
  · rfl
  · rfl

theorem pass_closureFindings {dependencies : List DependencySpec} {table : DefaultTable}
    (reported : finding ∈ closureFindings dependencies table) : finding.pass = .closure := by
  rcases List.mem_filterMap.mp reported with ⟨⟨architecture, defaults⟩, _, found⟩
  dsimp only at found
  split at found
  · cases found
  · rw [← Option.some.inj found]
    rfl

/-- The findings of one pass. -/
def findingsOf (spec : CatalogSpec) (width : Int) : Finding.Pass → List Finding
  | .extensions => extensionFindings width (spec.extensions.map ExtensionSpec.name)
  | .dependencies =>
    dependencyFindings (spec.extensions.map ExtensionSpec.name) 0 [] spec.dependencies
  | .cycles => cycleFindings (spec.extensions.map ExtensionSpec.name) spec.dependencies
  | .architectures =>
    (checkArchitectures (spec.extensions.map ExtensionSpec.name) 0 [] spec.architectures).1
  | .processors =>
    processorFindings (spec.extensions.map ExtensionSpec.name) spec.architectureDefaults 0 []
      spec.processors
  | .aliases .cpu => aliasFindings .cpu (spec.processors.map ProcessorSpec.name) spec.cpuAliases
  | .aliases .extension =>
    aliasFindings .extension (spec.extensions.map ExtensionSpec.name) spec.extensionAliases
  | .closure =>
    if isValid (spec.referenceFindings width) then
      closureFindings spec.dependencies spec.architectureDefaults
    else []

variable {spec : CatalogSpec} {width : Int}

theorem pass_of_mem_findingsOf {pass : Finding.Pass}
    (reported : finding ∈ spec.findingsOf width pass) : finding.pass = pass := by
  cases pass with
  | extensions => exact pass_extensionFindings reported
  | dependencies => exact pass_dependencyFindings reported
  | cycles => exact pass_cycleFindings reported
  | architectures => exact pass_checkArchitectures reported
  | processors => exact pass_processorFindings reported
  | aliases table => cases table <;> exact pass_aliasFindings reported
  | closure =>
      rw [findingsOf] at reported
      split at reported
      · exact pass_closureFindings reported
      · cases reported

theorem validate_eq_findingsOf : spec.validate width =
    spec.findingsOf width .extensions ++ spec.findingsOf width .dependencies ++
      spec.findingsOf width .cycles ++ spec.findingsOf width .architectures ++
      spec.findingsOf width .processors ++ spec.findingsOf width (.aliases .cpu) ++
      spec.findingsOf width (.aliases .extension) ++ spec.findingsOf width .closure := by
  have references : spec.referenceFindings width =
    spec.findingsOf width .extensions ++ spec.findingsOf width .dependencies ++
      spec.findingsOf width .cycles ++ spec.findingsOf width .architectures ++
      spec.findingsOf width .processors ++ spec.findingsOf width (.aliases .cpu) ++
      spec.findingsOf width (.aliases .extension) := rfl
  rw [← references, validate, findingsOf, isValid]
  cases (spec.referenceFindings width).any Finding.isError with
  | true => exact (List.append_nil _).symm
  | false => rfl

/-- A finding is reported when its pass reports it. -/
theorem mem_validate_iff :
    finding ∈ spec.validate width ↔ finding ∈ spec.findingsOf width finding.pass := by
  rw [validate_eq_findingsOf]
  simp only [List.mem_append]
  constructor
  · rintro (((((((early | early) | early) | early) | early) | early) | early) | late)
    all_goals rwa [pass_of_mem_findingsOf (by assumption)]
  · intro reported
    generalize finding.pass = pass at reported
    cases pass with
    | aliases table => cases table <;> simp only [reported, true_or, or_true]
    | _ => simp only [reported, true_or, or_true]

/-! ## Descriptions without errors -/

/-- Whether every alternate name of a description stands for a known name. -/
structure TargetsKnown (spec : CatalogSpec) : Prop where
  cpu : ∀ entry ∈ spec.cpuAliases.entries, entry.2 ∈ spec.processors.map ProcessorSpec.name
  extension : ∀ entry ∈ spec.extensionAliases.entries,
    entry.2 ∈ spec.extensions.map ExtensionSpec.name

theorem isValid_iff {findings : List Finding} :
    isValid findings = true ↔ Harmless findings ∧
      ∀ table alternate name, .aliasTarget table alternate name ∉ findings := by
  simp only [isValid, Bool.not_eq_true', List.any_eq_false, Harmless, Finding.blocks_iff]
  constructor
  · intro valid
    refine ⟨fun finding listed blocks => valid finding listed blocks.1, ?_⟩
    intro table alternate name listed
    exact valid _ listed rfl
  · rintro ⟨harmless, targets⟩ finding listed error
    refine harmless finding listed ⟨error, ?_⟩
    rintro table alternate name rfl
    exact targets table alternate name listed

theorem isValid_validate_iff :
    isValid (spec.validate width) = true ↔ spec.Consistent width ∧ spec.TargetsKnown := by
  have reported : ∀ {kind : AliasKind} {canonical : List String} {table : AliasTable},
      (∀ alternate name, .aliasTarget kind alternate name ∉ aliasFindings kind canonical table) ↔
        ∀ entry ∈ table.entries, entry.2 ∈ canonical := by
    intro kind canonical table
    simp only [aliasTarget_mem_aliasFindings_iff, not_and, not_not]
    exact ⟨fun known entry listed => known entry.1 entry.2 listed,
      fun known alternate name listed => known (alternate, name) listed⟩
  rw [isValid_iff, harmless_validate]
  refine and_congr_right fun _ => ?_
  constructor
  · intro targets
    constructor
    · exact reported.mp fun alternate name listed =>
        targets .cpu alternate name (mem_validate_iff.mpr listed)
    · exact reported.mp fun alternate name listed =>
        targets .extension alternate name (mem_validate_iff.mpr listed)
  · intro known table alternate name listed
    have here := mem_validate_iff.mp listed
    cases table with
    | cpu => exact reported.mpr known.cpu alternate name here
    | extension => exact reported.mpr known.extension alternate name here

end CatalogSpec

end TargetFeatures
