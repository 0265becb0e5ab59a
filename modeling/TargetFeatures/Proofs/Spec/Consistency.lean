import TargetFeatures.Proofs.Catalog.Acceptance
import TargetFeatures.Spec.Validate

/-!
# Consistent descriptions

What a description has to satisfy before a catalog can be built of it: names are distinct, the
extensions fit, references lead to declared names, and the dependencies have no cycle. Alternate
names play no part in it. `harmless_validate` says that validation reports a finding that stands in
the way exactly when one of these conditions fails. Each pass of the validation is characterised on
its own, although a pass goes on after a defect of an earlier one.
-/

namespace TargetFeatures

namespace Finding

/-- Whether a finding stands in the way of building: it is an error about something other than the
target of an alternate name. -/
def Blocks (finding : Finding) : Prop :=
  finding.isError = true ∧ finding.category ≠ "ALIAS_TARGET"

theorem blocks_iff {finding : Finding} :
    finding.Blocks ↔ finding.isError = true ∧
      ∀ table alternate name, finding ≠ .aliasTarget table alternate name := by
  cases finding <;> simp [Blocks, isError, category]

end Finding

namespace CatalogSpec

/-- The dependencies of a description as edges between names. -/
def edges (dependencies : List DependencySpec) : List (String × String) :=
  dependencies.map fun dependency => (dependency.earlier, dependency.later)

/-- Whether architectures are declared once, extend only architectures before them, and refer to
known extensions; `declared` holds the names before. -/
def InOrder (names declared : List String) : List ArchitectureSpec → Prop
  | [] => True
  | architecture :: rest =>
    architecture.name ∉ declared ∧ (∀ base ∈ architecture.base, base ∈ declared) ∧
      (∀ name ∈ architecture.add ++ architecture.remove, name ∈ names) ∧
      InOrder names (architecture.name :: declared) rest

/-- Whether a processor refers to a declared architecture and known extensions. -/
def Supported (names declared : List String) (processor : ProcessorSpec) : Prop :=
  processor.arch ∈ declared ∧ ∀ name ∈ processor.extensions, name ∈ names

/-- Whether a description can be turned into a catalog with ids below a width. -/
structure Consistent (spec : CatalogSpec) (width : Int) : Prop where
  distinct : (spec.extensions.map ExtensionSpec.name).Nodup
  fits : (spec.extensions.length : Int) ≤ width
  known : ∀ dependency ∈ spec.dependencies,
    dependency.earlier ∈ spec.extensions.map ExtensionSpec.name ∧
      dependency.later ∈ spec.extensions.map ExtensionSpec.name
  acyclic : Graph.Acyclic (edges spec.dependencies)
  architectures : InOrder (spec.extensions.map ExtensionSpec.name) [] spec.architectures
  distinctProcessors : (spec.processors.map ProcessorSpec.name).Nodup
  supported : ∀ processor ∈ spec.processors,
    Supported (spec.extensions.map ExtensionSpec.name)
      (spec.architectures.map ArchitectureSpec.name) processor

/-! ## Findings that do not stand in the way -/

/-- Whether no finding of a list stands in the way of building. -/
def Harmless (findings : List Finding) : Prop := ∀ finding ∈ findings, ¬finding.Blocks

@[simp]
theorem harmless_nil : Harmless [] := by simp [Harmless]

@[simp]
theorem harmless_append {first second : List Finding} :
    Harmless (first ++ second) ↔ Harmless first ∧ Harmless second :=
  List.forall_mem_append

@[simp]
theorem harmless_singleton {finding : Finding} : Harmless [finding] ↔ ¬finding.Blocks := by
  simp [Harmless]

theorem harmless_ite {condition : Bool} {finding : Finding} (blocks : finding.Blocks) :
    Harmless (if condition then [finding] else []) ↔ condition = false := by
  cases condition <;> simp [blocks]

/-- Findings about the unknown ones of some names stand in the way unless all are known. -/
theorem harmless_unknown (names listed : List String) {finding : String → Finding}
    (blocks : ∀ name, (finding name).Blocks) :
    Harmless ((listed.filter fun name => !names.contains name).map finding) ↔
      ∀ name ∈ listed, name ∈ names := by
  rw [Harmless, List.forall_mem_map]
  simp [blocks]

/-! ## Extensions and dependencies -/

theorem harmless_duplicateExtensions {names : List String} {position : Nat} {seen : List String} :
    Harmless (duplicateExtensions position seen names) ↔ DistinctAfter seen names := by
  induction names generalizing position seen with
  | nil => simp [duplicateExtensions]
  | cons name rest ih =>
      have blocks : (Finding.duplicateExtension position name).Blocks := by
        simp [Finding.blocks_iff, Finding.isError]
      rw [duplicateExtensions, harmless_append, ih, harmless_ite blocks, distinctAfter_cons]
      simp

theorem harmless_extensionFindings {width : Int} {names : List String} :
    Harmless (extensionFindings width names) ↔ names.Nodup ∧ (names.length : Int) ≤ width := by
  rw [extensionFindings, harmless_append, harmless_duplicateExtensions, nil_distinctAfter]
  by_cases tooMany : width < names.length
  · have blocks : (Finding.tooManyExtensions names.length width).Blocks := by
      simp [Finding.blocks_iff, Finding.isError]
    simp [tooMany, blocks]
  · simp [tooMany, Int.not_lt.mp tooMany]

/-- A dependency that is listed twice does not stand in the way. -/
theorem harmless_dependencyFindings {names : List String} {position : Nat}
    {seen : List (String × String)} {dependencies : List DependencySpec} :
    Harmless (dependencyFindings names position seen dependencies) ↔
      ∀ dependency ∈ dependencies, dependency.earlier ∈ names ∧ dependency.later ∈ names := by
  induction dependencies generalizing position seen with
  | nil => simp [dependencyFindings]
  | cons dependency rest ih =>
      have blocks : ∀ name, (Finding.unknownInDependency position name).Blocks := by
        simp [Finding.blocks_iff, Finding.isError]
      have unknown := harmless_unknown names [dependency.earlier, dependency.later] blocks
      rw [List.forall_mem_cons, dependencyFindings]
      dsimp only
      split
      · next none =>
          rw [List.isEmpty_iff] at none
          rw [none] at unknown
          have repeated : Harmless (if seen.contains (dependency.earlier, dependency.later) then
              [.duplicateDependency position dependency.earlier dependency.later] else []) := by
            split <;> simp [Finding.blocks_iff, Finding.isError]
          rw [harmless_append, ih, and_iff_right repeated]
          exact (and_iff_right (by simpa using unknown)).symm
      · rw [harmless_append, ih, unknown]
        simp

theorem nodup_eraseDups : (names : List String) → names.eraseDups.Nodup
  | [] => by simp
  | name :: rest => by
      rw [List.eraseDups_cons, List.nodup_cons, List.mem_eraseDups]
      exact ⟨by simp, nodup_eraseDups _⟩
termination_by names => names.length
decreasing_by exact Nat.lt_succ_of_le (List.length_filter_le _ _)

theorem harmless_cycleFindings {names : List String} {dependencies : List DependencySpec} :
    Harmless (cycleFindings names dependencies) ↔
      Graph.Acyclic (knownEdges names dependencies) := by
  have nodup := nodup_eraseDups names
  have within : ∀ edge ∈ knownEdges names dependencies,
      edge.1 ∈ names.eraseDups ∧ edge.2 ∈ names.eraseDups := by
    intro edge member
    rcases List.mem_map.mp member with ⟨dependency, listed, rfl⟩
    simpa using (List.mem_filter.mp listed).2
  rw [← Graph.exists_sort_eq_ok_iff nodup within, cycleFindings]
  cases outcome : Graph.sort names.eraseDups (knownEdges names dependencies) with
  | ok order => simp
  | error error =>
      rcases Graph.eq_cycle_of_sort_eq_error nodup within outcome with ⟨remaining, rfl, _⟩
      simp [Finding.blocks_iff, Finding.isError]

theorem knownEdges_eq {names : List String} {dependencies : List DependencySpec}
    (known : ∀ dependency ∈ dependencies, dependency.earlier ∈ names ∧ dependency.later ∈ names) :
    knownEdges names dependencies = edges dependencies := by
  rw [knownEdges, edges, List.filter_eq_self.mpr]
  intro dependency member
  simpa using known dependency member

/-! ## Architectures -/

namespace DefaultTable

variable {table : DefaultTable} {name other : String} {defaults : List String}

theorem isSome_get?_iff : (get? table name).isSome = true ↔ name ∈ table.map Prod.fst := by
  simp [get?]

theorem isSome_get?_insert :
    (get? (insert name defaults table) other).isSome = true ↔
      other = name ∨ (get? table other).isSome = true := by
  rw [isSome_get?_iff, isSome_get?_iff]
  induction table with
  | nil => simp [insert]
  | cons entry rest ih =>
      rw [insert]
      split
      · next same => simp [same]
      · rw [List.map_cons, List.mem_cons, ih, List.map_cons, List.mem_cons]
        exact or_left_comm

end DefaultTable

theorem harmless_listedFindings {names inherited : List String} {position : Nat}
    {processor : ProcessorSpec} :
    Harmless (processor.extensions.filterMap (listedFinding names inherited position processor)) ↔
      ∀ name ∈ processor.extensions, name ∈ names := by
  have each : ∀ name, (∀ finding, listedFinding names inherited position processor name =
      some finding → ¬finding.Blocks) ↔ name ∈ names := by
    intro name
    rw [listedFinding]
    by_cases known : name ∈ names
    · by_cases redundant : name ∈ inherited <;>
        simp [known, redundant, Finding.blocks_iff, Finding.isError]
    · simp [known, Finding.blocks_iff, Finding.isError]
  simp only [Harmless, List.mem_filterMap, forall_exists_index, and_imp]
  rw [forall_comm]
  exact forall_congr' fun name => by rw [forall_comm]; exact forall_congr' fun _ => each name

section

variable {names declared : List String} {table : DefaultTable}
  (keys : ∀ name, (DefaultTable.get? table name).isSome = true ↔ name ∈ declared)

include keys

theorem harmless_architectureFindings {position : Nat} {architecture : ArchitectureSpec} :
    Harmless (architectureFindings names table position architecture) ↔
      architecture.name ∉ declared ∧ (∀ base ∈ architecture.base, base ∈ declared) ∧
        ∀ name ∈ architecture.add ++ architecture.remove, name ∈ names := by
  have repeated : (Finding.duplicateArchitecture position architecture.name).Blocks := by
    simp [Finding.blocks_iff, Finding.isError]
  have unknown : ∀ name,
      (Finding.unknownInArchitecture position architecture.name name).Blocks := by
    simp [Finding.blocks_iff, Finding.isError]
  rw [architectureFindings, harmless_append, harmless_append, harmless_ite repeated,
    harmless_unknown _ _ unknown, and_assoc, ← keys, Bool.not_eq_true]
  refine and_congr_right fun _ => and_congr_left fun _ => ?_
  cases architecture.base with
  | none => simp
  | some base =>
      have undeclared : (Finding.undeclaredBase position architecture.name base).Blocks := by
        simp [Finding.blocks_iff, Finding.isError]
      by_cases known : (DefaultTable.get? table base).isSome = true
      · simp [known, (keys base).mp known]
      · simp [known, mt (keys base).mpr known, undeclared]

theorem harmless_processorFindings {processors : List ProcessorSpec} {position : Nat}
    {seen : List String} :
    Harmless (processorFindings names table position seen processors) ↔
      DistinctAfter seen (processors.map ProcessorSpec.name) ∧
        ∀ processor ∈ processors, Supported names declared processor := by
  induction processors generalizing position seen with
  | nil => simp [processorFindings]
  | cons processor rest ih =>
      have repeated : (Finding.duplicateProcessor position processor.name).Blocks := by
        simp [Finding.blocks_iff, Finding.isError]
      have unknown :
          (Finding.unknownArchitecture position processor.name processor.arch).Blocks := by
        simp [Finding.blocks_iff, Finding.isError]
      have listed : Harmless (processor.extensions.filterMap (listedFinding names
          ((DefaultTable.get? table processor.arch).getD []) position processor)) ↔
          ∀ name ∈ processor.extensions, name ∈ names :=
        harmless_listedFindings
      rw [processorFindings, List.map_cons, distinctAfter_cons, List.forall_mem_cons,
        harmless_append, harmless_append, harmless_append, ih, listed, harmless_ite repeated,
        Supported, ← keys]
      by_cases known : (DefaultTable.get? table processor.arch).isSome = true
      · simp [known, and_assoc, and_left_comm]
      · simp [known, unknown]

end

theorem harmless_checkArchitectures {names : List String} {architectures : List ArchitectureSpec}
    {position : Nat} {table : DefaultTable} {declared : List String}
    (keys : ∀ name, (DefaultTable.get? table name).isSome = true ↔ name ∈ declared) :
    Harmless (checkArchitectures names position table architectures).1 ↔
      InOrder names declared architectures := by
  induction architectures generalizing position table declared with
  | nil => simp [checkArchitectures, InOrder]
  | cons architecture rest ih =>
      have following : ∀ name, (DefaultTable.get? (DefaultTable.insert architecture.name
          (defaultsOf table architecture) table) name).isSome = true ↔
            name ∈ architecture.name :: declared := by
        intro name
        rw [DefaultTable.isSome_get?_insert, keys, List.mem_cons]
      rw [checkArchitectures, InOrder]
      dsimp only
      rw [harmless_append, harmless_architectureFindings keys, ih following]
      simp only [and_assoc]

/-- The table of defaults has every architecture of the description. -/
theorem isSome_get?_checkArchitectures {names : List String}
    {architectures : List ArchitectureSpec} {position : Nat} {table : DefaultTable}
    {name : String} :
    (DefaultTable.get? (checkArchitectures names position table architectures).2 name).isSome =
        true ↔
      name ∈ architectures.map ArchitectureSpec.name ∨
        (DefaultTable.get? table name).isSome = true := by
  induction architectures generalizing position table with
  | nil => simp [checkArchitectures]
  | cons architecture rest ih =>
      rw [checkArchitectures]
      dsimp only
      rw [ih, DefaultTable.isSome_get?_insert, List.map_cons, List.mem_cons]
      tauto

/-! ## The whole validation -/

theorem harmless_aliasFindings (kind : AliasKind) (canonical : List String) (table : AliasTable) :
    Harmless (aliasFindings kind canonical table) := by
  intro finding member
  rcases List.mem_flatMap.mp member with ⟨⟨alternate, name⟩, _, found⟩
  rcases List.mem_append.mp found with target | shadow
  · split at target
    · cases target
    · rw [List.mem_singleton.mp target]
      simp [Finding.blocks_iff]
  · split at shadow
    · rw [List.mem_singleton.mp shadow]
      simp [Finding.blocks_iff, Finding.isError]
    · cases shadow

theorem harmless_closureFindings (dependencies : List DependencySpec) (table : DefaultTable) :
    Harmless (closureFindings dependencies table) := by
  intro finding member
  rcases List.mem_filterMap.mp member with ⟨⟨architecture, defaults⟩, _, found⟩
  dsimp only at found
  split at found
  · cases found
  · rw [← Option.some.inj found]
    simp [Finding.blocks_iff, Finding.isError]

theorem harmless_referenceFindings {spec : CatalogSpec} {width : Int} :
    Harmless (spec.referenceFindings width) ↔ spec.Consistent width := by
  have empty : ∀ name, (DefaultTable.get? [] name).isSome = true ↔ name ∈ ([] : List String) := by
    simp [DefaultTable.get?]
  have final : ∀ name, (DefaultTable.get? (checkArchitectures
      (spec.extensions.map ExtensionSpec.name) 0 [] spec.architectures).2 name).isSome = true ↔
        name ∈ spec.architectures.map ArchitectureSpec.name := by
    intro name
    rw [isSome_get?_checkArchitectures]
    simp [DefaultTable.get?]
  rw [referenceFindings]
  simp only [harmless_append, harmless_extensionFindings, harmless_dependencyFindings,
    harmless_cycleFindings, harmless_checkArchitectures empty, harmless_processorFindings final,
    harmless_aliasFindings, nil_distinctAfter, and_true, List.length_map]
  constructor
  · rintro ⟨⟨⟨⟨⟨distinct, fits⟩, known⟩, acyclic⟩, architectures⟩, distinctProcessors, supported⟩
    exact ⟨distinct, fits, known, knownEdges_eq known ▸ acyclic, architectures, distinctProcessors,
      supported⟩
  · intro consistent
    exact ⟨⟨⟨⟨⟨consistent.distinct, consistent.fits⟩, consistent.known⟩,
      knownEdges_eq consistent.known ▸ consistent.acyclic⟩, consistent.architectures⟩,
      consistent.distinctProcessors, consistent.supported⟩

/-- Validation reports nothing that stands in the way of building exactly when the description is
consistent. -/
theorem harmless_validate {spec : CatalogSpec} {width : Int} :
    Harmless (spec.validate width) ↔ spec.Consistent width := by
  rw [← harmless_referenceFindings, validate]
  split
  · rfl
  · rw [harmless_append, and_iff_left (harmless_closureFindings _ _)]

end CatalogSpec

end TargetFeatures
