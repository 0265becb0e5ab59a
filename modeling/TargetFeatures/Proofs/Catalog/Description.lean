import TargetFeatures.Proofs.Catalog.Building
import TargetFeatures.Proofs.Data.Document

/-!
# What a catalog is built of

A catalog that is built of a description says the same as the description, with ids in place of
names. `Represents` lists what that means part by part: every record has the fields of its entry,
every edge is a dependency, and every set of defaults is that of the names which the validation
computes for the architecture. `represents_build` proves it along the recursion of the building.
-/

namespace TargetFeatures

section

variable {α β : Type} {related : α → β → Prop} {left : List α} {right : List β}

theorem exists_left_of_forall₂ (matched : List.Forall₂ related left right) {entry : β}
    (member : entry ∈ right) : ∃ origin ∈ left, related origin entry := by
  induction matched with
  | nil => cases member
  | cons first _ ih =>
      rcases List.mem_cons.mp member with rfl | later
      · exact ⟨_, List.mem_cons_self, first⟩
      · rcases ih later with ⟨origin, listed, holds⟩
        exact ⟨origin, List.mem_cons_of_mem _ listed, holds⟩

/-- The first entries that pass matching tests match. -/
theorem rel_find?_of_forall₂ (matched : List.Forall₂ related left right) {leftTest : α → Bool}
    {rightTest : β → Bool} (same : ∀ origin entry, related origin entry →
      leftTest origin = rightTest entry) :
    Option.Rel related (left.find? leftTest) (right.find? rightTest) := by
  induction matched with
  | nil => exact .none
  | @cons origin entry _ _ first _ ih =>
      rw [List.find?_cons, List.find?_cons, same origin entry first]
      cases rightTest entry with
      | true => exact .some first
      | false => exact ih

end

namespace CatalogSpec

namespace DefaultTable

variable {table : DefaultTable} {name other : String} {defaults : List String}

theorem get?_cons {key : String} {value : List String} :
    get? ((key, value) :: table) other = if other = key then some value else get? table other := by
  rw [get?, List.lookup_cons]
  split
  · next same => rw [if_pos (eq_of_beq same)]
  · next different => rw [if_neg (ne_of_beq_false different), get?]

theorem get?_insert :
    get? (insert name defaults table) other =
      if other = name then some defaults else get? table other := by
  induction table with
  | nil => exact get?_cons
  | cons entry rest ih =>
      rcases entry with ⟨key, value⟩
      rw [insert]
      by_cases replaced : key = name
      · rw [if_pos replaced, get?_cons, get?_cons, replaced]
        split <;> rfl
      · rw [if_neg replaced, get?_cons, get?_cons, ih]
        by_cases found : other = key
        · have different : other ≠ name := fun same => replaced (found ▸ same)
          rw [if_pos found, if_neg different, if_pos found]
        · rw [if_neg found, if_neg found]

theorem nodup_keys_insert (distinct : (table.map Prod.fst).Nodup) :
    ((insert name defaults table).map Prod.fst).Nodup := by
  induction table with
  | nil => simp [insert]
  | cons entry rest ih =>
      rw [List.map_cons, List.nodup_cons] at distinct
      rw [insert]
      split
      · next replaced =>
          rw [List.map_cons, List.nodup_cons]
          exact replaced ▸ distinct
      · next kept =>
          rw [List.map_cons, List.nodup_cons, ← isSome_get?_iff, isSome_get?_insert,
            isSome_get?_iff, not_or]
          exact ⟨⟨kept, distinct.1⟩, ih distinct.2⟩

end DefaultTable

theorem nodup_keys_checkArchitectures {names : List String} {position : Nat}
    {table : DefaultTable} {entries : List ArchitectureSpec}
    (distinct : (table.map Prod.fst).Nodup) :
    ((checkArchitectures names position table entries).2.map Prod.fst).Nodup := by
  induction entries generalizing position table with
  | nil => exact distinct
  | cons entry rest ih => exact ih (DefaultTable.nodup_keys_insert distinct)

theorem get?_checkArchitectures_of_not_mem {names : List String} {position : Nat}
    {table : DefaultTable} {entries : List ArchitectureSpec} {name : String}
    (fresh : name ∉ entries.map ArchitectureSpec.name) :
    DefaultTable.get? (checkArchitectures names position table entries).2 name =
      DefaultTable.get? table name := by
  induction entries generalizing position table with
  | nil => rfl
  | cons entry rest ih =>
      rw [List.map_cons, List.mem_cons, not_or] at fresh
      rw [checkArchitectures]
      dsimp only
      rw [ih fresh.2, DefaultTable.get?_insert, if_neg fresh.1]

/-- The names of the default extensions of an architecture. -/
def defaultNames (spec : CatalogSpec) (architecture : String) : List String :=
  (DefaultTable.get? spec.architectureDefaults architecture).getD []

/-- The names that a processor lists, and those of the defaults of its architecture. -/
def impliedNames (spec : CatalogSpec) (processor : ProcessorSpec) : List String :=
  processor.extensions ++ spec.defaultNames processor.arch

/-- Whether one extension is another one or is required by it, directly or not. -/
def Requires (spec : CatalogSpec) : String → String → Prop :=
  Relation.ReflTransGen fun later earlier => ⟨earlier, later⟩ ∈ spec.dependencies

end CatalogSpec

/-- A small description. It lists one dependency twice, and the processor `cortex` lists `simd`,
which its architecture has anyway. -/
def CatalogSpec.small : CatalogSpec where
  extensions := ["fp", "simd", "sve", "crc"].map fun name =>
    ⟨name, "+" ++ name, none, none, none, leastPriority⟩
  dependencies := [⟨"fp", "simd"⟩, ⟨"simd", "sve"⟩, ⟨"fp", "simd"⟩]
  architectures :=
    [⟨"v8a", 8, 0, .application, "+v8a", none, ["fp", "simd"], []⟩,
     ⟨"v8r", 8, 0, .realTime, "+v8r", some "v8a", ["crc"], ["simd"]⟩]
  processors := [⟨"cortex", "v8a", ["simd", "crc"]⟩, ⟨"neo", "v8r", ["sve"]⟩]
  cpuAliases := AliasTable.empty.insert "n1" "neo"
  extensionAliases := AliasTable.empty.insert "neon" "simd"

namespace ModelCatalog

/-- The record of an architecture with some defaults. -/
def architectureOf (entry : ArchitectureSpec) (defaults : Int) : Architecture :=
  ⟨entry.name, entry.major, entry.minor, entry.profile, entry.archFeature, defaults⟩

/-- Whether an architecture is built of an entry and has the defaults of a table. -/
structure RepresentsArchitecture (extensions : ExtensionCatalog) (table : CatalogSpec.DefaultTable)
    (entry : ArchitectureSpec) (architecture : Architecture) : Prop where
  record : architecture = architectureOf entry architecture.defaults
  defaults : extensions.Lists architecture.defaults
    ((CatalogSpec.DefaultTable.get? table entry.name).getD [])

/-- Whether a processor is built of an entry. -/
structure RepresentsProcessor (extensions : ExtensionCatalog) (architectures : List Architecture)
    (entry : ProcessorSpec) (processor : Processor) : Prop where
  name : processor.name = entry.name
  architecture : architectures.find? (·.name == entry.arch) = some processor.architecture
  defaults : extensions.Lists processor.defaults entry.extensions

/-- Whether a catalog says what a description says. -/
structure Represents (spec : CatalogSpec) (catalog : ModelCatalog) : Prop where
  consistent : spec.Consistent ExtensionCatalog.defaultWidth
  accepted : catalog.extensions.Accepted
  extensions : catalog.extensions.extensions = spec.extensions.map extensionOf
  edges : ∀ edge, edge ∈ catalog.extensions.edges ↔ ∃ dependency ∈ spec.dependencies,
    catalog.extensions.find? dependency.earlier = some edge.1 ∧
      catalog.extensions.find? dependency.later = some edge.2
  aliases : catalog.extensions.aliases = spec.extensionAliases
  architectures : List.Forall₂
    (RepresentsArchitecture catalog.extensions spec.architectureDefaults)
    spec.architectures catalog.architectures
  processors : List.Forall₂ (RepresentsProcessor catalog.extensions catalog.architectures)
    spec.processors catalog.processors
  cpuAliases : catalog.cpuAliases = spec.cpuAliases

/-! ## Extensions -/

theorem accepted_of_buildExtensions {spec : CatalogSpec} {extensions : ExtensionCatalog}
    (built : buildExtensions spec = .ok extensions) : extensions.Accepted := by
  rw [buildExtensions] at built
  split at built
  · cases built
  · rw [bind_eq_ok_iff] at built
    rcases built with ⟨edges, _, made⟩
    exact ⟨_, edges, _, _, made⟩

theorem names_of_buildExtensions {spec : CatalogSpec} {extensions : ExtensionCatalog}
    (built : buildExtensions spec = .ok extensions) :
    extensions.names = spec.extensions.map ExtensionSpec.name := by
  rcases buildExtensions_eq_ok_iff.mp built with ⟨_, rfl⟩
  exact map_name_extensionOf _

theorem edges_of_buildExtensions {spec : CatalogSpec} {extensions : ExtensionCatalog}
    (built : buildExtensions spec = .ok extensions) (edge : Nat × Nat) :
    edge ∈ extensions.edges ↔ ∃ dependency ∈ spec.dependencies,
      extensions.find? dependency.earlier = some edge.1 ∧
        extensions.find? dependency.later = some edge.2 := by
  have named := names_of_buildExtensions built
  have distinct := (accepted_of_buildExtensions built).nodup_names
  rcases buildExtensions_eq_ok_iff.mp built with ⟨⟨_, _, known, _⟩, made⟩
  have found : ∀ name ∈ spec.extensions.map ExtensionSpec.name,
      extensions.find? name = some ((spec.extensions.map ExtensionSpec.name).idxOf name) := by
    intro name listed
    rw [ExtensionCatalog.find?_eq_some_iff distinct, named, List.getElem?_idxOf listed]
  have sides : ∀ dependency ∈ spec.dependencies,
      (extensions.find? dependency.earlier = some edge.1 ∧
        extensions.find? dependency.later = some edge.2) ↔
      ExtensionCatalog.edgeOfIds (idEdge (spec.extensions.map ExtensionSpec.name) dependency) =
        edge := by
    intro dependency listed
    rw [found _ (known dependency listed).1, found _ (known dependency listed).2, Prod.ext_iff]
    simp [ExtensionCatalog.edgeOfIds, idEdge]
  have edges : extensions.edges = (spec.dependencies.map (idEdge
      (spec.extensions.map ExtensionSpec.name))).map ExtensionCatalog.edgeOfIds := by
    rw [made]
  rw [edges, List.map_map, List.mem_map]
  constructor
  · rintro ⟨dependency, listed, same⟩
    exact ⟨dependency, listed, (sides dependency listed).mpr same⟩
  · rintro ⟨dependency, listed, ends⟩
    exact ⟨dependency, listed, (sides dependency listed).mp ends⟩

/-! ## Architectures -/

section

variable {extensions : ExtensionCatalog} {built : List Architecture}
  {table : CatalogSpec.DefaultTable} {entry : ArchitectureSpec} {architecture : Architecture}

/-- Whether the architectures built so far have the defaults of a table. -/
def AgreesWith (extensions : ExtensionCatalog) (table : CatalogSpec.DefaultTable)
    (built : List Architecture) : Prop :=
  ∀ name, Option.Rel (fun names architecture => extensions.Lists architecture.defaults names)
    (CatalogSpec.DefaultTable.get? table name) (built.find? (·.name == name))

theorem lists_inherited (agrees : AgreesWith extensions table built) {start : Int}
    (found : inherited built entry = .ok start) :
    extensions.Lists start ((entry.base.bind (CatalogSpec.DefaultTable.get? table)).getD []) := by
  rw [inherited] at found
  cases based : entry.base with
  | none =>
      rw [based] at found
      injection found with same
      intro id
      simp [← same, Mask.contains]
  | some base =>
      rw [based] at found
      have here := agrees base
      cases known : built.find? (·.name == base) with
      | none =>
          simp only [known] at found
          cases found
      | some architecture =>
          simp only [known] at found
          injection found with same
          rw [known] at here
          rw [Option.bind_some]
          cases listed : CatalogSpec.DefaultTable.get? table base with
          | none =>
              rw [listed] at here
              cases here
          | some names =>
              rw [listed] at here
              cases here with
              | some lists => exact same ▸ lists

theorem lists_buildArchitecture (agrees : AgreesWith extensions table built)
    (done : buildArchitecture extensions built entry = .ok architecture) :
    extensions.Lists architecture.defaults (CatalogSpec.defaultsOf table entry) := by
  rcases buildArchitecture_eq_ok_iff.mp done with
    ⟨_, start, startOk, added, addedOk, removed, removedOk, rfl⟩
  have inherits := lists_inherited agrees startOk
  have asNatural : extensions.Lists (start.toNat : Int) _ :=
    (Mask.toNat_of_isBelow inherits.isBelow).symm ▸ inherits
  exact (asNatural.union (extensions.lists_bitsetOfNames addedOk)).difference
    (extensions.lists_bitsetOfNames removedOk)

theorem AgreesWith.insert (agrees : AgreesWith extensions table built)
    (done : buildArchitecture extensions built entry = .ok architecture) :
    AgreesWith extensions
      (CatalogSpec.DefaultTable.insert entry.name (CatalogSpec.defaultsOf table entry) table)
      (built ++ [architecture]) := by
  have fresh := (buildArchitecture_eq_ok_iff.mp done).1
  have named := name_of_buildArchitecture done
  intro name
  rw [CatalogSpec.DefaultTable.get?_insert, List.find?_append, List.find?_singleton, named]
  by_cases same : name = entry.name
  · have missing : built.find? (·.name == name) = none := by
      rw [List.find?_eq_none]
      intro other listed found
      apply fresh
      rw [← same, ← eq_of_beq found]
      exact List.mem_map_of_mem listed
    rw [if_pos same, missing, Option.none_or, if_pos (by simp [same])]
    exact .some (lists_buildArchitecture agrees done)
  · rw [if_neg same, if_neg (by simpa using Ne.symm same), Option.or_none]
    exact agrees name

theorem represents_buildArchitectures (names : List String) (position : Nat)
    {entries : List ArchitectureSpec} {architectures : List Architecture}
    (agrees : AgreesWith extensions table built)
    (distinct : (entries.map ArchitectureSpec.name).Nodup)
    (done : buildArchitectures extensions built entries = .ok architectures) :
    ∃ added, architectures = built ++ added ∧ List.Forall₂
      (RepresentsArchitecture extensions
        (CatalogSpec.checkArchitectures names position table entries).2) entries added := by
  induction entries generalizing built table position with
  | nil =>
      injection done with same
      exact ⟨[], by rw [List.append_nil, same], .nil⟩
  | cons entry rest ih =>
      rw [List.map_cons, List.nodup_cons] at distinct
      rw [buildArchitectures, bind_eq_ok_iff] at done
      rcases done with ⟨architecture, here, others⟩
      rcases ih (position + 1) (agrees.insert here) distinct.2 others with
        ⟨added, rfl, matched⟩
      refine ⟨architecture :: added, by simp, .cons ?_ matched⟩
      constructor
      · rcases buildArchitecture_eq_ok_iff.mp here with ⟨_, _, _, _, _, _, _, rfl⟩
        rfl
      · have lists := lists_buildArchitecture agrees here
        rw [CatalogSpec.checkArchitectures]
        dsimp only
        rw [CatalogSpec.get?_checkArchitectures_of_not_mem distinct.1,
          CatalogSpec.DefaultTable.get?_insert, if_pos rfl]
        exact lists

end

/-! ## Processors -/

theorem represents_buildProcessors {extensions : ExtensionCatalog}
    {architectures : List Architecture} {entries : List ProcessorSpec} {processors : List Processor}
    (done : buildProcessors extensions architectures entries = .ok processors) :
    List.Forall₂ (RepresentsProcessor extensions architectures) entries processors := by
  induction entries generalizing processors with
  | nil =>
      injection done with same
      rw [← same]
      exact .nil
  | cons entry rest ih =>
      simp only [buildProcessors, bind_eq_ok_iff] at done
      rcases done with ⟨processor, here, others, othersDone, made⟩
      injection made with same
      rw [← same]
      refine .cons ?_ (ih othersDone)
      rw [buildProcessor] at here
      split at here
      · cases here
      · next architecture known =>
          rw [bind_eq_ok_iff] at here
          rcases here with ⟨mask, listed, processorMade⟩
          injection processorMade with same
          rw [← same]
          exact ⟨rfl, known, ExtensionCatalog.lists_bitsetOfNames listed⟩

/-! ## The whole catalog -/

theorem represents_build {spec : CatalogSpec} {catalog : ModelCatalog}
    (built : build spec = .ok catalog) : Represents spec catalog := by
  have consistent := exists_build_eq_ok_iff.mp ⟨catalog, built⟩
  simp only [build, bind_eq_ok_iff] at built
  rcases built with ⟨extensions, extensionsOk, architectures, architecturesOk, processors,
    processorsOk, partsOk⟩
  have parts := (ofParts_eq_ok_iff.mp partsOk).2
  have distinct : (spec.architectures.map ArchitectureSpec.name).Nodup :=
    nil_distinctAfter.mp (distinctAfter_of_inOrder consistent.architectures)
  have nothing : AgreesWith extensions [] [] := fun _ => .none
  rcases represents_buildArchitectures (spec.extensions.map ExtensionSpec.name) 0 nothing distinct
    architecturesOk with ⟨_, rfl, matched⟩
  rw [parts]
  exact {
    consistent := consistent
    accepted := accepted_of_buildExtensions extensionsOk
    extensions := by rw [(buildExtensions_eq_ok_iff.mp extensionsOk).2]
    edges := edges_of_buildExtensions extensionsOk
    aliases := by rw [(buildExtensions_eq_ok_iff.mp extensionsOk).2]
    architectures := matched
    processors := represents_buildProcessors processorsOk
    cpuAliases := rfl }

namespace Represents

variable {spec : CatalogSpec} {catalog : ModelCatalog} {name : String}

theorem names_eq (represents : Represents spec catalog) :
    catalog.extensions.names = spec.extensions.map ExtensionSpec.name := by
  rw [ExtensionCatalog.names, represents.extensions, map_name_extensionOf]

theorem isBelow_defaults (represents : Represents spec catalog) {architecture : Architecture}
    (member : architecture ∈ catalog.architectures) :
    Mask.isBelow catalog.extensions.size architecture.defaults = true := by
  rcases exists_left_of_forall₂ represents.architectures member with ⟨_, _, same⟩
  exact same.defaults.isBelow

/-- An extension requires another one in the catalog when it does so in the description. -/
theorem requires_iff (represents : Represents spec catalog) {other : String} :
    catalog.extensions.Requires name other ↔
      name ∈ catalog.extensions.names ∧ spec.Requires name other := by
  constructor
  · rintro ⟨id, required, found, foundOther, reached⟩
    refine ⟨ExtensionCatalog.exists_find?_iff.mp ⟨id, found⟩, ?_⟩
    induction reached generalizing other with
    | refl =>
        rw [ExtensionCatalog.name_eq_of_find? found foundOther]
        exact .refl
    | tail _ step ih =>
        rcases (represents.edges _).mp (ExtensionCatalog.mem_prerequisites.mp step) with
          ⟨dependency, listed, earlier, later⟩
        rw [ExtensionCatalog.name_eq_of_find? foundOther earlier]
        exact (ih later).tail listed
  · rintro ⟨known, requires⟩
    induction requires with
    | refl =>
        rcases ExtensionCatalog.exists_find?_iff.mpr known with ⟨id, found⟩
        exact ⟨id, id, found, found, .refl id⟩
    | @tail middle last _ step ih =>
        rcases ih with ⟨id, between, found, foundMiddle, reached⟩
        have declared := (represents.consistent.known _ step).1
        rw [← represents.names_eq, ← ExtensionCatalog.exists_find?_iff] at declared
        rcases declared with ⟨required, foundLast⟩
        have edge := (represents.edges (required, between)).mpr ⟨_, step, foundLast, foundMiddle⟩
        exact ⟨id, required, found, foundLast,
          reached.trans (.of_prerequisite (ExtensionCatalog.mem_prerequisites.mpr edge))⟩

/-- The processor with a name implies what its entry lists and what its architecture has. -/
theorem lists_implied (represents : Represents spec catalog) {entry : ProcessorSpec}
    {processor : Processor}
    (same : RepresentsProcessor catalog.extensions catalog.architectures entry processor) :
    catalog.extensions.Lists processor.implied (spec.impliedNames entry) := by
  have member := List.mem_of_find?_eq_some same.architecture
  have named := List.find?_some same.architecture
  rcases exists_left_of_forall₂ represents.architectures member with ⟨origin, _, recorded⟩
  have sameName : origin.name = entry.arch := by
    rw [← eq_of_beq named, recorded.record]
    rfl
  have inherits := recorded.defaults
  rw [sameName] at inherits
  exact same.defaults.union inherits

theorem isBelow_implied (represents : Represents spec catalog) {processor : Processor}
    (member : processor ∈ catalog.processors) :
    Mask.isBelow catalog.extensions.size processor.implied = true := by
  rcases exists_left_of_forall₂ represents.processors member with ⟨_, _, same⟩
  exact (represents.lists_implied same).isBelow

/-- The architecture of an entry is found by its name and has the defaults of the entry. -/
theorem exists_parseArch?_eq_some (represents : Represents spec catalog) {entry : ArchitectureSpec}
    (listed : entry ∈ spec.architectures) :
    ∃ architecture, catalog.parseArch? entry.name = some architecture ∧
      catalog.extensions.Lists architecture.defaults (spec.defaultNames entry.name) := by
  have sameName : ∀ origin architecture, RepresentsArchitecture catalog.extensions
      spec.architectureDefaults origin architecture → origin.name = architecture.name := by
    intro origin architecture same
    rw [same.record]
    rfl
  have matched := rel_find?_of_forall₂ represents.architectures
    fun origin architecture same => congrArg (· == entry.name) (sameName origin architecture same)
  rcases exists_find?_name_iff.mpr (List.mem_map_of_mem (f := ArchitectureSpec.name) listed) with
    ⟨origin, found⟩
  have named : origin.name = entry.name := by simpa using List.find?_some found
  rw [found] at matched
  cases known : catalog.architectures.find? (·.name == entry.name) with
  | none =>
      rw [known] at matched
      cases matched
  | some architecture =>
      rw [known] at matched
      cases matched with
      | some same => exact ⟨architecture, known, named ▸ same.defaults⟩

end Represents

/-- The catalog of the small description. -/
def small : ModelCatalog :=
  let basic : Architecture := ⟨"v8a", 8, 0, .application, "+v8a", 0b0011⟩
  let realTime : Architecture := ⟨"v8r", 8, 0, .realTime, "+v8r", 0b1001⟩
  { extensions := { ExtensionCatalog.small with edges := [(0, 1), (1, 2), (0, 1)] }
    architectures := [basic, realTime]
    processors := [⟨"cortex", basic, 0b1010⟩, ⟨"neo", realTime, 0b0100⟩]
    cpuAliases := AliasTable.empty.insert "n1" "neo" }

theorem build_small : build .small = .ok .small := by decide +kernel

end ModelCatalog

end TargetFeatures
