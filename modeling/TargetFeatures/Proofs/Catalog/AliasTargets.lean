import TargetFeatures.Proofs.Catalog.Description
import TargetFeatures.Proofs.Spec.Passes

/-!
# Alternate names that lead nowhere

A catalog takes its tables of alternate names over from the description as they are. The validation
reports an alternate name that stands for nothing as an error, but building does not look at what
alternate names stand for. What it builds then has names that it lists and does not find, and these
are exactly the ones reported (`aliasTarget_cpu_mem_validate_iff` and its counterpart for
extensions). All other errors stand in the way.
-/

namespace TargetFeatures

theorem AliasTable.lookup?_eq_some_iff {table : AliasTable} {alternate name : String} :
    table.lookup? alternate = some name ↔ (alternate, name) ∈ table.entries :=
  lookup_eq_some_iff_mem table.nodup

theorem AliasTable.mem_alternates_iff {table : AliasTable} {alternate : String} :
    alternate ∈ table.alternates ↔ ∃ name, table.lookup? alternate = some name := by
  simp only [alternates, List.mem_map, Prod.exists, exists_and_right, exists_eq_right,
    lookup?_eq_some_iff]

theorem AliasTable.resolve_of_lookup? {table : AliasTable} {alternate name : String}
    (found : table.lookup? alternate = some name) : table.resolve alternate = name := by
  rw [resolve, found, Option.getD_some]

namespace ModelCatalog.Represents

variable {spec : CatalogSpec} {catalog : ModelCatalog} {width : Int} {alternate name : String}

theorem processorNames_eq (represents : Represents spec catalog) :
    catalog.processors.map Processor.name = spec.processors.map ProcessorSpec.name := by
  have matched := represents.processors.imp fun _ _ same => same.name.symm
  rw [eq_comm, ← List.forall₂_eq_eq_eq, List.forall₂_map_left_iff, List.forall₂_map_right_iff]
  exact matched

/-- The validation reports the alternate names of processors that find none. -/
theorem aliasTarget_cpu_mem_validate_iff (represents : Represents spec catalog) :
    .aliasTarget .cpu alternate name ∈ spec.validate width ↔
      catalog.cpuAliases.lookup? alternate = some name ∧ catalog.parseCpu? alternate = none := by
  have reported : .aliasTarget .cpu alternate name ∈ spec.validate width ↔
      catalog.cpuAliases.lookup? alternate = some name ∧
        name ∉ catalog.processors.map Processor.name := by
    rw [CatalogSpec.mem_validate_iff, represents.cpuAliases, AliasTable.lookup?_eq_some_iff,
      represents.processorNames_eq]
    exact CatalogSpec.aliasTarget_mem_aliasFindings_iff
  rw [reported]
  refine and_congr_right fun found => ?_
  rw [parseCpu?, AliasTable.resolve_of_lookup? found, ← exists_find?_name_iff,
    ← Option.isSome_iff_exists, Option.not_isSome_iff_eq_none]

/-- The validation reports the alternate names of extensions that find none. -/
theorem aliasTarget_extension_mem_validate_iff (represents : Represents spec catalog) :
    .aliasTarget .extension alternate name ∈ spec.validate width ↔
      catalog.extensions.aliases.lookup? alternate = some name ∧
        catalog.extensions.parse? alternate = none := by
  have reported : .aliasTarget .extension alternate name ∈ spec.validate width ↔
      catalog.extensions.aliases.lookup? alternate = some name ∧
        name ∉ catalog.extensions.names := by
    rw [CatalogSpec.mem_validate_iff, represents.aliases, AliasTable.lookup?_eq_some_iff,
      represents.names_eq]
    exact CatalogSpec.aliasTarget_mem_aliasFindings_iff
  rw [reported]
  refine and_congr_right fun found => ?_
  rw [ExtensionCatalog.parse?, AliasTable.resolve_of_lookup? found,
    ExtensionCatalog.find?_eq_none_iff]

end ModelCatalog.Represents

/-- A description of nothing but alternate names without targets. -/
def CatalogSpec.dangling : CatalogSpec where
  extensions := []
  dependencies := []
  architectures := []
  processors := []
  cpuAliases := AliasTable.empty.insert "a78" "cortex-a78"
  extensionAliases := AliasTable.empty.insert "neon" "simd"

namespace ModelCatalog

/-- An error about anything but the target of an alternate name stands in the way of building. In a
catalog that was built, an alternate name finds a record exactly when no error is about it. -/
theorem errors_block_unless_about_targets (spec : CatalogSpec) :
    (∀ finding ∈ spec.validate ExtensionCatalog.defaultWidth, finding.isError = true →
      finding.category ≠ "ALIAS_TARGET" → ∃ error, build spec = .error error) ∧
    ∀ catalog, build spec = .ok catalog →
      (∀ alternate ∈ catalog.cpuAliases.alternates,
        (∃ processor, catalog.parseCpu? alternate = some processor) ↔
          ∀ name, .aliasTarget .cpu alternate name ∉ spec.validate ExtensionCatalog.defaultWidth) ∧
      (∀ alternate ∈ catalog.extensions.aliases.alternates,
        (∃ id, catalog.extensions.parse? alternate = some id) ↔
          ∀ name, .aliasTarget .extension alternate name ∉
            spec.validate ExtensionCatalog.defaultWidth) := by
  constructor
  · intro finding reported error other
    rw [exists_eq_error_iff, exists_build_eq_ok_iff, ← CatalogSpec.harmless_validate]
    intro harmless
    exact harmless finding reported ⟨error, other⟩
  · intro catalog built
    have represents := represents_build built
    constructor
    · intro alternate listed
      rcases AliasTable.mem_alternates_iff.mp listed with ⟨target, found⟩
      simp only [represents.aliasTarget_cpu_mem_validate_iff, found, Option.some.injEq, not_and,
        forall_eq', ← Option.ne_none_iff_exists', ne_eq]
    · intro alternate listed
      rcases AliasTable.mem_alternates_iff.mp listed with ⟨target, found⟩
      simp only [represents.aliasTarget_extension_mem_validate_iff, found, Option.some.injEq,
        not_and, forall_eq', ← Option.ne_none_iff_exists', ne_eq]

theorem errors_block_unless_about_targets_small :
    let unsupported : CatalogSpec := { CatalogSpec.small with processors := [⟨"neo", "v9", []⟩] }
    let spec : CatalogSpec :=
      { CatalogSpec.small with
        cpuAliases := CatalogSpec.small.cpuAliases.insert "a78" "cortex-a78" }
    let catalog : ModelCatalog := { ModelCatalog.small with cpuAliases := spec.cpuAliases }
    (∃ error, build unsupported = .error error) ∧ build spec = .ok catalog ∧
      (∃ processor, catalog.parseCpu? "n1" = some processor) ∧
      (¬∃ processor, catalog.parseCpu? "a78" = some processor) ∧
      ∃ id, catalog.extensions.parse? "neon" = some id := by
  intro unsupported spec catalog
  have built : build spec = .ok catalog := by decide +kernel
  have findings : spec.validate ExtensionCatalog.defaultWidth =
      [.duplicateDependency 2 "fp" "simd", .redundantDefault 0 "cortex" "v8a" "simd",
        .aliasTarget .cpu "a78" "cortex-a78"] := by decide +kernel
  have blocked := (errors_block_unless_about_targets unsupported).1
    (.unknownArchitecture 0 "neo" "v9") (by decide +kernel) rfl (by decide)
  rcases (errors_block_unless_about_targets spec).2 catalog built with ⟨processors, extensions⟩
  rw [findings] at processors extensions
  refine ⟨blocked, built, ?_, ?_, ?_⟩
  · exact (processors "n1" (by decide)).mpr (by simp)
  · rw [processors "a78" (by decide)]
    simp
  · exact (extensions "neon" (by decide)).mpr (by simp)

/-- Both errors about `dangling` leave it buildable, and the catalog lists names that it does not
find. -/
theorem dangling_is_built :
    (CatalogSpec.dangling.validate ExtensionCatalog.defaultWidth).map Finding.message =
        ["alias 'a78' points to unknown name 'cortex-a78'",
          "alias 'neon' points to unknown name 'simd'"] ∧
      (∀ finding ∈ CatalogSpec.dangling.validate ExtensionCatalog.defaultWidth,
        finding.isError = true ∧ finding.category = "ALIAS_TARGET") ∧
      ∃ catalog, build .dangling = .ok catalog ∧
        "a78" ∈ catalog.cpuNames ∧ catalog.parseCpu? "a78" = none ∧
        "neon" ∈ catalog.extensions.aliases.alternates ∧
        catalog.extensions.parse? "neon" = none := by
  refine ⟨by decide +kernel, by decide +kernel, ?_⟩
  exact ⟨⟨⟨[], [], AliasTable.empty.insert "neon" "simd", ExtensionCatalog.defaultWidth⟩, [], [],
    AliasTable.empty.insert "a78" "cortex-a78"⟩, by decide +kernel⟩

end ModelCatalog

end TargetFeatures
