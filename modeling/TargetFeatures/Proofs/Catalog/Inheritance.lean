import TargetFeatures.Proofs.Catalog.Description

/-!
# Inherited defaults

An architecture has the defaults of the one that it extends, together with those that it adds and
without those that it removes. `HasDefault` says this along the whole chain of bases. It is computed
twice: the validation collects names in a table, and the building collects ids in a set. Both end
with the extensions of the relation (`Consistent.mem_defaultNames_iff`), because a base is declared
before the architectures that extend it, so that its own defaults are complete when they are asked
for.
-/

namespace TargetFeatures

namespace CatalogSpec

/-- Whether an architecture has an extension by default: a base in its chain or the architecture
itself adds the extension, and nothing from there on removes it. -/
inductive HasDefault (entries : List ArchitectureSpec) : ArchitectureSpec → String → Prop
  | added {entry : ArchitectureSpec} {name : String} (listed : name ∈ entry.add)
      (kept : name ∉ entry.remove) : HasDefault entries entry name
  | inherited {entry base : ArchitectureSpec} {name : String} (declared : base ∈ entries)
      (based : entry.base = some base.name) (has : HasDefault entries base name)
      (kept : name ∉ entry.remove) : HasDefault entries entry name

theorem hasDefault_iff {entries : List ArchitectureSpec} {entry : ArchitectureSpec}
    {name : String} :
    HasDefault entries entry name ↔
      ((∃ base ∈ entries, entry.base = some base.name ∧ HasDefault entries base name) ∨
        name ∈ entry.add) ∧ name ∉ entry.remove := by
  constructor
  · rintro (⟨listed, kept⟩ | ⟨declared, based, has, kept⟩)
    · exact ⟨Or.inr listed, kept⟩
    · exact ⟨Or.inl ⟨_, declared, based, has⟩, kept⟩
  · rintro ⟨⟨base, declared, based, has⟩ | listed, kept⟩
    · exact .inherited declared based has kept
    · exact .added listed kept

/-- Whether a table has the defaults of some architectures. -/
def Flattens (entries : List ArchitectureSpec) (table : DefaultTable)
    (declared : List ArchitectureSpec) : Prop :=
  ∀ entry ∈ declared, ∃ names, DefaultTable.get? table entry.name = some names ∧
    ∀ name, name ∈ names ↔ HasDefault entries entry name

section

variable {entries declared : List ArchitectureSpec} {table : DefaultTable}
  {entry : ArchitectureSpec} (distinct : (entries.map ArchitectureSpec.name).Nodup)

include distinct

/-- With the defaults of the architectures before it, those of an architecture are complete. -/
theorem Flattens.mem_defaultsOf_iff (flattens : Flattens entries table declared)
    (part : declared ⊆ entries)
    (based : ∀ base ∈ entry.base, base ∈ declared.map ArchitectureSpec.name) {name : String} :
    name ∈ defaultsOf table entry ↔ HasDefault entries entry name := by
  have inherits : name ∈ (entry.base.bind (DefaultTable.get? table)).getD [] ↔
      ∃ base ∈ entries, entry.base = some base.name ∧ HasDefault entries base name := by
    cases extended : entry.base with
    | none => simp
    | some baseName =>
        rcases List.mem_map.mp (based baseName extended) with ⟨base, baseMem, rfl⟩
        rcases flattens base baseMem with ⟨names, found, same⟩
        rw [Option.bind_some, found, Option.getD_some, same]
        constructor
        · exact fun has => ⟨base, part baseMem, rfl, has⟩
        · rintro ⟨other, otherMem, sameName, has⟩
          have unique : base = other := List.inj_on_of_nodup_map distinct (part baseMem) otherMem
            (Option.some.inj sameName)
          exact unique ▸ has
  rw [hasDefault_iff, ← inherits, defaultsOf]
  simp [or_and_right]

theorem Flattens.insert (flattens : Flattens entries table declared) (part : declared ⊆ entries)
    (fresh : entry.name ∉ declared.map ArchitectureSpec.name)
    (based : ∀ base ∈ entry.base, base ∈ declared.map ArchitectureSpec.name) :
    Flattens entries (DefaultTable.insert entry.name (defaultsOf table entry) table)
      (declared ++ [entry]) := by
  intro other member
  rcases List.mem_append.mp member with old | new
  · have different : other.name ≠ entry.name :=
      fun same => fresh (same ▸ List.mem_map_of_mem old)
    rw [DefaultTable.get?_insert, if_neg different]
    exact flattens other old
  · rw [List.mem_singleton.mp new, DefaultTable.get?_insert, if_pos rfl]
    exact ⟨_, rfl, fun name => flattens.mem_defaultsOf_iff distinct part based⟩

theorem Flattens.checkArchitectures {names known : List String} (position : Nat)
    {rest : List ArchitectureSpec} (flattens : Flattens entries table declared)
    (part : declared ++ rest ⊆ entries)
    (keys : ∀ name, name ∈ known ↔ name ∈ declared.map ArchitectureSpec.name)
    (inOrder : InOrder names known rest) :
    Flattens entries (checkArchitectures names position table rest).2 (declared ++ rest) := by
  induction rest generalizing position table declared known with
  | nil => rwa [List.append_nil]
  | cons entry rest ih =>
      rcases inOrder with ⟨fresh, based, _, following⟩
      simp only [keys] at fresh based
      have partHere := List.append_subset.mp part
      have next := ih (position + 1) (flattens.insert distinct partHere.1 fresh based)
        (by simpa using part)
        (fun name => by simp [keys, or_comm]) following
      rwa [List.append_assoc, List.singleton_append] at next

end

/-- The validation of a consistent description computes the defaults of every architecture. -/
theorem Consistent.flattens {spec : CatalogSpec} {width : Int}
    (consistent : spec.Consistent width) :
    Flattens spec.architectures spec.architectureDefaults spec.architectures := by
  have distinct := nil_distinctAfter.mp
    (ModelCatalog.distinctAfter_of_inOrder consistent.architectures)
  have nothing : Flattens spec.architectures [] [] := by simp [Flattens]
  exact nothing.checkArchitectures distinct 0 (List.Subset.refl _) (by simp)
    consistent.architectures

theorem InOrder.known {names declared : List String} {entries : List ArchitectureSpec}
    (inOrder : InOrder names declared entries) :
    ∀ entry ∈ entries, ∀ name ∈ entry.add ++ entry.remove, name ∈ names := by
  induction entries generalizing declared with
  | nil => simp
  | cons first rest ih =>
      exact List.forall_mem_cons.mpr ⟨inOrder.2.2.1, ih inOrder.2.2.2⟩

/-- Default extensions are declared. -/
theorem Consistent.known_of_hasDefault {spec : CatalogSpec} {width : Int}
    (consistent : spec.Consistent width) {entry : ArchitectureSpec} {name : String}
    (listed : entry ∈ spec.architectures) (has : HasDefault spec.architectures entry name) :
    name ∈ spec.extensions.map ExtensionSpec.name := by
  induction has with
  | added added _ =>
      exact consistent.architectures.known _ listed _ (List.mem_append_left _ added)
  | inherited declared _ _ _ ih => exact ih declared

theorem Consistent.mem_defaultNames_iff {spec : CatalogSpec} {width : Int}
    (consistent : spec.Consistent width) {entry : ArchitectureSpec}
    (listed : entry ∈ spec.architectures) {name : String} :
    name ∈ spec.defaultNames entry.name ↔ HasDefault spec.architectures entry name := by
  rcases consistent.flattens entry listed with ⟨names, found, same⟩
  rw [defaultNames, found, Option.getD_some, same]

end CatalogSpec

namespace ModelCatalog

open CatalogSpec

/-- In a catalog that is built of a description, every architecture has the defaults of its base,
together with those that it adds and without those that it removes, and the validation computes the
same ones. A processor implies the extensions that it lists and the defaults of its architecture. -/
theorem defaults_follow_bases {spec : CatalogSpec} {catalog : ModelCatalog}
    (built : build spec = .ok catalog) :
    (∀ entry name, HasDefault spec.architectures entry name ↔
      ((∃ base ∈ spec.architectures, entry.base = some base.name ∧
        HasDefault spec.architectures base name) ∨ name ∈ entry.add) ∧ name ∉ entry.remove) ∧
    (∀ entry ∈ spec.architectures, ∃ architecture shown flattened,
      catalog.parseArch? entry.name = some architecture ∧
      catalog.extensions.names? architecture.defaults = some shown ∧
      DefaultTable.get? spec.architectureDefaults entry.name = some flattened ∧
      ∀ name, (name ∈ shown ↔ HasDefault spec.architectures entry name) ∧
        (name ∈ flattened ↔ HasDefault spec.architectures entry name)) ∧
    List.Forall₂ (fun entry processor => processor.name = entry.name ∧
      catalog.parseArch? entry.arch = some processor.architecture ∧
      ∃ base ∈ spec.architectures, base.name = entry.arch ∧
        ∃ shown, catalog.extensions.names? processor.implied = some shown ∧
          ∀ name, name ∈ shown ↔
            name ∈ entry.extensions ∨ HasDefault spec.architectures base name)
      spec.processors catalog.processors := by
  have represents := represents_build built
  have consistent := represents.consistent
  have distinct := represents.accepted.nodup_names
  have declared : ∀ entry ∈ spec.architectures, ∀ name,
      HasDefault spec.architectures entry name → name ∈ catalog.extensions.names := by
    intro entry listed name has
    rw [represents.names_eq]
    exact consistent.known_of_hasDefault listed has
  refine ⟨fun _ _ => hasDefault_iff, ?_, ?_⟩
  · intro entry listed
    rcases represents.exists_parseArch?_eq_some listed with ⟨architecture, found, lists⟩
    rcases consistent.flattens entry listed with ⟨flattened, computed, same⟩
    rcases lists.exists_names?_eq distinct fun name member =>
      declared entry listed name ((consistent.mem_defaultNames_iff listed).mp member) with
      ⟨shown, shownEq, members⟩
    exact ⟨architecture, shown, flattened, found, shownEq, computed, fun name =>
      ⟨(members name).trans (consistent.mem_defaultNames_iff listed), same name⟩⟩
  · have supported := (List.forall₂_and_left _ _).mpr ⟨consistent.supported, represents.processors⟩
    refine supported.imp fun entry processor ⟨⟨runs, listed⟩, same⟩ => ?_
    rcases List.mem_map.mp runs with ⟨base, baseMem, named⟩
    have members : ∀ name, name ∈ spec.impliedNames entry ↔
        name ∈ entry.extensions ∨ HasDefault spec.architectures base name := by
      intro name
      rw [CatalogSpec.impliedNames, List.mem_append, ← named,
        consistent.mem_defaultNames_iff baseMem]
    rcases (represents.lists_implied same).exists_names?_eq distinct (by
      intro name member
      rcases (members name).mp member with own | inherited
      · rw [represents.names_eq]
        exact listed name own
      · exact declared base baseMem name inherited) with ⟨shown, shownEq, shows⟩
    exact ⟨same.name, same.architecture, base, baseMem, named, shown, shownEq, fun name =>
      (shows name).trans (members name)⟩

/-- The small description with an architecture that adds again what its base removes, and that lists
one extension both as added and as removed. -/
def layeredSpec : CatalogSpec :=
  { CatalogSpec.small with
    architectures := CatalogSpec.small.architectures ++
      [⟨"v9r", 9, 0, .realTime, "+v9r", some "v8r", ["simd", "sve"], ["sve"]⟩] }

/-- The catalog of that description. -/
def layered : ModelCatalog :=
  { small with
    architectures := small.architectures ++ [⟨"v9r", 9, 0, .realTime, "+v9r", 0b1011⟩] }

theorem build_layeredSpec : build layeredSpec = .ok layered := by decide +kernel

theorem defaults_follow_bases_layered :
    build layeredSpec = .ok layered ∧
      ∀ name, HasDefault layeredSpec.architectures layeredSpec.architectures[2] name ↔
        name ∈ ["fp", "simd", "crc"] := by
  refine ⟨build_layeredSpec, fun name => ?_⟩
  rcases (defaults_follow_bases build_layeredSpec).2.1 layeredSpec.architectures[2]
    (List.getElem_mem _) with ⟨architecture, shown, _, found, shownEq, _, same⟩
  have highest : layered.parseArch? "v9r" = some ⟨"v9r", 9, 0, .realTime, "+v9r", 0b1011⟩ := by
    decide +kernel
  obtain rfl := Option.some.inj (found.symm.trans highest)
  have names : layered.extensions.names? 0b1011 = some ["fp", "simd", "crc"] := by
    decide +kernel
  rw [← (same name).1, Option.some.inj (shownEq.symm.trans names)]

end ModelCatalog

end TargetFeatures
