import TargetFeatures.Proofs.Catalog.AliasTargets

/-!
# What alternate names find

A name is looked up among the alternate names first, and only once. In a description without errors
every alternate name stands for a name, so that names and alternate names are all that is found. If
also no alternate name hides a name, one step of resolution is enough: names keep their meaning, and
what an alternate name stands for is a name and resolves to itself.

Processors and extensions have a table each. What both need is said of one table and a list of names
(`LeadsInto`, `HidesNone`).
-/

namespace TargetFeatures

namespace AliasTable

variable {table : AliasTable} {names : List String} {name : String}

/-- Whether every alternate name of a table stands for a listed name. -/
def LeadsInto (table : AliasTable) (names : List String) : Prop :=
  ∀ entry ∈ table.entries, entry.2 ∈ names

/-- Whether no alternate name of a table is a listed name. -/
def HidesNone (table : AliasTable) (names : List String) : Prop :=
  ∀ alternate ∈ table.alternates, alternate ∉ names

theorem lookup?_eq_none_iff : table.lookup? name = none ↔ name ∉ table.alternates := by
  rw [mem_alternates_iff, ← Option.ne_none_iff_exists', not_not]

theorem resolve_of_not_mem_alternates (free : name ∉ table.alternates) :
    table.resolve name = name := by
  rw [resolve, lookup?_eq_none_iff.mpr free, Option.getD_none]

theorem LeadsInto.resolve_mem (leads : table.LeadsInto names)
    (alternate : name ∈ table.alternates) : table.resolve name ∈ names := by
  rcases mem_alternates_iff.mp alternate with ⟨target, found⟩
  rw [resolve_of_lookup? found]
  exact leads _ (lookup?_eq_some_iff.mp found)

theorem LeadsInto.resolve_mem_iff (leads : table.LeadsInto names) :
    table.resolve name ∈ names ↔ name ∈ names ∨ name ∈ table.alternates := by
  by_cases alternate : name ∈ table.alternates
  · exact iff_of_true (leads.resolve_mem alternate) (Or.inr alternate)
  · rw [resolve_of_not_mem_alternates alternate, or_iff_left alternate]

theorem HidesNone.resolve_of_mem (hidesNone : table.HidesNone names) (listed : name ∈ names) :
    table.resolve name = name :=
  resolve_of_not_mem_alternates fun alternate => hidesNone name alternate listed

theorem HidesNone.resolve_resolve (hidesNone : table.HidesNone names)
    (leads : table.LeadsInto names) (name : String) :
    table.resolve (table.resolve name) = table.resolve name := by
  by_cases alternate : name ∈ table.alternates
  · exact hidesNone.resolve_of_mem (leads.resolve_mem alternate)
  · rw [resolve_of_not_mem_alternates alternate, resolve_of_not_mem_alternates alternate]

end AliasTable

/-! ## What the validation says about the tables -/

namespace CatalogSpec

variable {spec : CatalogSpec} {width : Int}

theorem aliasShadowsName_mem_aliasFindings_iff {kind : AliasKind} {canonical : List String}
    {table : AliasTable} {alternate : String} :
    .aliasShadowsName kind alternate ∈ aliasFindings kind canonical table ↔
      alternate ∈ table.alternates ∧ alternate ∈ canonical := by
  simp only [mem_aliasFindings_iff, Finding.aliasShadowsName.injEq, true_and, reduceCtorEq,
    and_false, false_or, AliasTable.alternates, List.mem_map]
  constructor
  · rintro ⟨entry, listed, hidden, rfl⟩
    exact ⟨⟨entry, listed, rfl⟩, hidden⟩
  · rintro ⟨⟨entry, listed, rfl⟩, hidden⟩
    exact ⟨entry, listed, hidden, rfl⟩

/-- Whether no alternate name of a description hides a name. -/
structure NothingHidden (spec : CatalogSpec) : Prop where
  cpu : spec.cpuAliases.HidesNone (spec.processors.map ProcessorSpec.name)
  extension : spec.extensionAliases.HidesNone (spec.extensions.map ExtensionSpec.name)

/-- Without the warning nothing is hidden. -/
theorem nothingHidden_of_validate
    (unwarned : ∀ finding ∈ spec.validate width, finding.category ≠ "ALIAS_SHADOWS_NAME") :
    spec.NothingHidden where
  cpu alternate listed hidden :=
    unwarned (.aliasShadowsName .cpu alternate)
      (mem_validate_iff.mpr (aliasShadowsName_mem_aliasFindings_iff.mpr ⟨listed, hidden⟩)) rfl
  extension alternate listed hidden :=
    unwarned (.aliasShadowsName .extension alternate)
      (mem_validate_iff.mpr (aliasShadowsName_mem_aliasFindings_iff.mpr ⟨listed, hidden⟩)) rfl

end CatalogSpec

namespace ModelCatalog

open CatalogSpec

/-! ## Looking names up in a catalog -/

/-- Of records with distinct names, each one is found under its own. -/
theorem find?_own_name {α : Type} {name : α → String} {records : List α} {record : α}
    (distinct : (records.map name).Nodup) (listed : record ∈ records) :
    records.find? (name · == name record) = some record := by
  rcases exists_find?_name_iff.mpr (List.mem_map_of_mem listed) with ⟨found, isFound⟩
  have sameName : name found = name record := by simpa using List.find?_some isFound
  have member := List.mem_of_find?_eq_some isFound
  rw [isFound, List.inj_on_of_nodup_map distinct member listed sameName]

/-- Whether every name finds the record that has it, every alternate name finds the record that has
the name it stands for, and resolving once is enough. -/
structure Unambiguous (catalog : ModelCatalog) : Prop where
  processor : ∀ processor ∈ catalog.processors, catalog.parseCpu? processor.name = some processor
  extension : ∀ id extension, catalog.extensions.get? id = some extension →
    catalog.extensions.parse? extension.name = some id
  cpuAlias : ∀ entry ∈ catalog.cpuAliases.entries, ∃ processor ∈ catalog.processors,
    processor.name = entry.2 ∧ catalog.parseCpu? entry.1 = some processor
  extensionAlias : ∀ entry ∈ catalog.extensions.aliases.entries, ∃ id extension,
    catalog.extensions.get? id = some extension ∧ extension.name = entry.2 ∧
      catalog.extensions.parse? entry.1 = some id
  resolveCpu : ∀ name, catalog.cpuAliases.resolve (catalog.cpuAliases.resolve name) =
    catalog.cpuAliases.resolve name
  resolveExtension : ∀ name,
    catalog.extensions.aliases.resolve (catalog.extensions.aliases.resolve name) =
      catalog.extensions.aliases.resolve name
  nodup_cpuNames : catalog.cpuNames.Nodup

namespace Represents

variable {spec : CatalogSpec} {catalog : ModelCatalog}

theorem distinctProcessors (represents : Represents spec catalog) :
    (catalog.processors.map Processor.name).Nodup := by
  rw [represents.processorNames_eq]
  exact represents.consistent.distinctProcessors

section

variable (represents : Represents spec catalog) (known : spec.TargetsKnown)

include represents known

theorem cpuAliases_leadsInto :
    catalog.cpuAliases.LeadsInto (catalog.processors.map Processor.name) := by
  rw [represents.cpuAliases, represents.processorNames_eq]
  exact known.cpu

theorem aliases_leadsInto :
    catalog.extensions.aliases.LeadsInto catalog.extensions.names := by
  rw [represents.aliases, represents.names_eq]
  exact known.extension

theorem exists_parseCpu?_iff {name : String} :
    (∃ processor, catalog.parseCpu? name = some processor) ↔ name ∈ catalog.cpuNames := by
  rw [cpuNames, List.mem_append, ← (represents.cpuAliases_leadsInto known).resolve_mem_iff,
    ← exists_find?_name_iff]
  rfl

theorem exists_parse?_iff {name : String} :
    (∃ id, catalog.extensions.parse? name = some id) ↔
      name ∈ catalog.extensions.names ∨ name ∈ catalog.extensions.aliases.alternates := by
  rw [← (represents.aliases_leadsInto known).resolve_mem_iff]
  exact ExtensionCatalog.exists_find?_iff

end

section

variable (represents : Represents spec catalog) (unhidden : spec.NothingHidden)

include represents unhidden

theorem cpuAliases_hidesNone :
    catalog.cpuAliases.HidesNone (catalog.processors.map Processor.name) := by
  rw [represents.cpuAliases, represents.processorNames_eq]
  exact unhidden.cpu

theorem aliases_hidesNone :
    catalog.extensions.aliases.HidesNone catalog.extensions.names := by
  rw [represents.aliases, represents.names_eq]
  exact unhidden.extension

theorem parse?_own_name {id : Nat} {extension : Extension}
    (found : catalog.extensions.get? id = some extension) :
    catalog.extensions.parse? extension.name = some id := by
  have named : catalog.extensions.names[id]? = some extension.name := by
    rw [ExtensionCatalog.names, List.getElem?_map]
    exact congrArg (Option.map Extension.name) found
  have listed := List.mem_of_getElem? named
  rw [ExtensionCatalog.parse?, (represents.aliases_hidesNone unhidden).resolve_of_mem listed,
    ExtensionCatalog.find?_eq_some_iff represents.accepted.nodup_names]
  exact named

theorem unambiguous (known : spec.TargetsKnown) : catalog.Unambiguous where
  processor processor listed := by
    have hidesNone := represents.cpuAliases_hidesNone unhidden
    rw [parseCpu?, hidesNone.resolve_of_mem (List.mem_map_of_mem listed)]
    exact find?_own_name represents.distinctProcessors listed
  extension _ _ found := represents.parse?_own_name unhidden found
  cpuAlias entry listed := by
    have target := represents.cpuAliases_leadsInto known entry listed
    rcases List.mem_map.mp target with ⟨processor, member, named⟩
    refine ⟨processor, member, named, ?_⟩
    rw [parseCpu?, AliasTable.resolve_of_lookup? (AliasTable.lookup?_eq_some_iff.mpr listed),
      ← named]
    exact find?_own_name represents.distinctProcessors member
  extensionAlias entry listed := by
    have target := represents.aliases_leadsInto known entry listed
    rcases ExtensionCatalog.exists_find?_iff.mpr target with ⟨id, found⟩
    have named := ExtensionCatalog.getElem?_names_of_find? found
    rw [ExtensionCatalog.names, List.getElem?_map, Option.map_eq_some_iff] at named
    rcases named with ⟨extension, here, sameName⟩
    refine ⟨id, extension, here, sameName, ?_⟩
    rw [ExtensionCatalog.parse?,
      AliasTable.resolve_of_lookup? (AliasTable.lookup?_eq_some_iff.mpr listed), found]
  resolveCpu := (represents.cpuAliases_hidesNone unhidden).resolve_resolve
    (represents.cpuAliases_leadsInto known)
  resolveExtension := (represents.aliases_hidesNone unhidden).resolve_resolve
    (represents.aliases_leadsInto known)
  nodup_cpuNames := by
    refine List.nodup_append'.mpr
      ⟨represents.distinctProcessors, catalog.cpuAliases.nodup, fun name listed alternate => ?_⟩
    exact represents.cpuAliases_hidesNone unhidden name alternate listed

end

end Represents

/-- A description without errors is built, and the names and alternate names of its processors and
extensions are all that the catalog finds. When no alternate name hides a name either, every name
and every alternate name finds its record in one step. -/
theorem alternate_names_are_exact {spec : CatalogSpec}
    (valid : isValid (spec.validate ExtensionCatalog.defaultWidth) = true) :
    ∃ catalog, build spec = .ok catalog ∧
      (∀ name, (∃ processor, catalog.parseCpu? name = some processor) ↔
        name ∈ catalog.cpuNames) ∧
      (∀ name, (∃ id, catalog.extensions.parse? name = some id) ↔
        name ∈ catalog.extensions.names ∨ name ∈ catalog.extensions.aliases.alternates) ∧
      ((∀ finding ∈ spec.validate ExtensionCatalog.defaultWidth,
        finding.category ≠ "ALIAS_SHADOWS_NAME") → catalog.Unambiguous) := by
  rcases isValid_validate_iff.mp valid with ⟨consistent, known⟩
  rcases exists_build_eq_ok_iff.mpr consistent with ⟨catalog, built⟩
  have represents := represents_build built
  refine ⟨catalog, built, fun _ => represents.exists_parseCpu?_iff known,
    fun _ => represents.exists_parse?_iff known, fun unwarned => ?_⟩
  exact represents.unambiguous (nothingHidden_of_validate unwarned) known

theorem alternate_names_are_exact_small :
    isValid (CatalogSpec.small.validate ExtensionCatalog.defaultWidth) = true ∧
    (∀ finding ∈ CatalogSpec.small.validate ExtensionCatalog.defaultWidth,
      finding.category ≠ "ALIAS_SHADOWS_NAME") ∧
    ∃ catalog, build .small = .ok catalog ∧
      (∀ name, (∃ processor, catalog.parseCpu? name = some processor) ↔
        name ∈ catalog.cpuNames) ∧
      (∀ name, (∃ id, catalog.extensions.parse? name = some id) ↔
        name ∈ catalog.extensions.names ∨ name ∈ catalog.extensions.aliases.alternates) ∧
      catalog.Unambiguous := by
  have valid : isValid (CatalogSpec.small.validate ExtensionCatalog.defaultWidth) = true := by
    decide +kernel
  have unwarned : ∀ finding ∈ CatalogSpec.small.validate ExtensionCatalog.defaultWidth,
      finding.category ≠ "ALIAS_SHADOWS_NAME" := by
    decide +kernel
  rcases alternate_names_are_exact valid with ⟨catalog, built, processors, extensions, unambiguous⟩
  exact ⟨valid, unwarned, catalog, built, processors, extensions, unambiguous unwarned⟩

end ModelCatalog

end TargetFeatures
