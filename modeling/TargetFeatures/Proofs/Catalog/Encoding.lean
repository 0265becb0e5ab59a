import TargetFeatures.Proofs.Catalog.Description
import TargetFeatures.Session.Resolve

/-!
# Ids are an encoding

A catalog refers to extensions by their positions, so that another order of the same description
gives every set and every edge other numbers. What a catalog says about names stays: `SameByName`
relates catalogs that agree on the extensions, on what these require and on the sets that the
lookups of architectures and processors lead to. Descriptions that are `Alike` have such catalogs.
-/

namespace TargetFeatures

section

variable {α β γ : Type} {first : α → β → Prop} {second : α → γ → Prop} {third : β → γ → Prop}

theorem forall₂_of_common (combine : ∀ origin left right, first origin left →
      second origin right → third left right) {origins : List α} {left : List β} {right : List γ}
    (ofLeft : List.Forall₂ first origins left) (ofRight : List.Forall₂ second origins right) :
    List.Forall₂ third left right := by
  induction ofLeft generalizing right with
  | nil =>
      cases ofRight
      exact .nil
  | cons here _ ih =>
      cases ofRight with
      | cons hereRight rest => exact .cons (combine _ _ _ here hereRight) (ih rest)

theorem rel_or {related : α → β → Prop} {left leftRest : Option α}
    {right rightRest : Option β} (same : Option.Rel related left right)
    (sameRest : Option.Rel related leftRest rightRest) :
    Option.Rel related (left.or leftRest) (right.or rightRest) := by
  cases same with
  | some here => exact .some here
  | none => exact sameRest

end

/-! ## Catalogs that say the same -/

namespace ExtensionCatalog

structure SameByName (left right : ExtensionCatalog) : Prop where
  leftAccepted : left.Accepted
  rightAccepted : right.Accepted
  extensions : left.extensions.Perm right.extensions
  requires : ∀ name other, left.Requires name other ↔ right.Requires name other
  aliases : left.aliases = right.aliases

/-- Whether two sets, one for each of two catalogs, have the same extensions. -/
structure SameSet (left right : ExtensionCatalog) (mask twin : Int) : Prop where
  leftBelow : Mask.isBelow left.size mask = true
  rightBelow : Mask.isBelow right.size twin = true
  includes : ∀ name, left.includes mask name = right.includes twin name

variable {left right : ExtensionCatalog}

theorem SameByName.names (same : left.SameByName right) : left.names.Perm right.names :=
  same.extensions.map Extension.name

theorem sameSet_of_lists (names : left.names.Perm right.names) {mask twin : Int}
    {listed others : List String} (lists : left.Lists mask listed)
    (twinLists : right.Lists twin others) (same : ∀ name, name ∈ listed ↔ name ∈ others) :
    SameSet left right mask twin where
  leftBelow := lists.isBelow
  rightBelow := twinLists.isBelow
  includes name := by
    rw [Bool.eq_iff_iff, lists.includes_iff, twinLists.includes_iff, same, names.mem_iff]

end ExtensionCatalog

structure Architecture.SameByName (left right : ExtensionCatalog)
    (architecture twin : Architecture) : Prop where
  record : twin = { architecture with defaults := twin.defaults }
  defaults : left.SameSet right architecture.defaults twin.defaults

structure Processor.SameByName (left right : ExtensionCatalog) (processor twin : Processor) :
    Prop where
  architecture : processor.architecture.SameByName left right twin.architecture
  implied : left.SameSet right processor.implied twin.implied

structure ModelCatalog.SameByName (left right : ModelCatalog) : Prop where
  extensions : left.extensions.SameByName right.extensions
  archTarget? : ∀ name, Option.Rel (Architecture.SameByName left.extensions right.extensions)
    (Session.archTarget? left name) (Session.archTarget? right name)
  parseCpu? : ∀ name, Option.Rel (Processor.SameByName left.extensions right.extensions)
    (left.parseCpu? name) (right.parseCpu? name)

/-! ## Descriptions that say the same -/

namespace CatalogSpec

/-- Whether two entries of processors imply the same extensions. -/
structure SameProcessor (left right : CatalogSpec) (entry twin : ProcessorSpec) : Prop where
  arch : entry.arch = twin.arch
  implied : ∀ name, name ∈ left.impliedNames entry ↔ name ∈ right.impliedNames twin

/-- Whether two descriptions differ at most in the order of extensions and processors, the order
and the repetitions of dependencies, and in how processors list what they imply. -/
structure Alike (left right : CatalogSpec) : Prop where
  extensions : left.extensions.Perm right.extensions
  dependencies : ∀ dependency, dependency ∈ left.dependencies ↔ dependency ∈ right.dependencies
  architectures : left.architectures = right.architectures
  processors : ∀ name, Option.Rel (SameProcessor left right)
    (left.processors.find? (·.name == name)) (right.processors.find? (·.name == name))
  cpuAliases : left.cpuAliases = right.cpuAliases
  extensionAliases : left.extensionAliases = right.extensionAliases

theorem snd_checkArchitectures (names others : List String) (position start : Nat)
    (table : DefaultTable) (entries : List ArchitectureSpec) :
    (checkArchitectures names position table entries).2 =
      (checkArchitectures others start table entries).2 := by
  induction entries generalizing position start table with
  | nil => rfl
  | cons entry rest ih => exact ih _ _ _

/-- The defaults of architectures do not depend on the other parts of a description. -/
theorem architectureDefaults_congr {left right : CatalogSpec}
    (same : left.architectures = right.architectures) :
    left.architectureDefaults = right.architectureDefaults := by
  rw [architectureDefaults, architectureDefaults, same]
  exact snd_checkArchitectures _ _ _ _ _ _

theorem defaultNames_congr {left right : CatalogSpec}
    (same : left.architectures = right.architectures) (architecture : String) :
    left.defaultNames architecture = right.defaultNames architecture := by
  rw [defaultNames, defaultNames, architectureDefaults_congr same]

theorem inOrder_congr {names others declared : List String} {entries : List ArchitectureSpec}
    (same : ∀ name, name ∈ names ↔ name ∈ others) :
    InOrder names declared entries ↔ InOrder others declared entries := by
  induction entries generalizing declared with
  | nil => rfl
  | cons entry rest ih => simp only [InOrder, same, ih]

namespace Alike

variable {left right : CatalogSpec}

theorem names (alike : left.Alike right) :
    (left.extensions.map ExtensionSpec.name).Perm (right.extensions.map ExtensionSpec.name) :=
  alike.extensions.map ExtensionSpec.name

theorem requires_iff (alike : left.Alike right) {name other : String} :
    left.Requires name other ↔ right.Requires name other := by
  simp only [Requires, alike.dependencies]

theorem consistent (alike : left.Alike right) {width : Int} (consistent : left.Consistent width)
    (distinctProcessors : (right.processors.map ProcessorSpec.name).Nodup)
    (supported : ∀ processor ∈ right.processors,
      Supported (left.extensions.map ExtensionSpec.name)
        (left.architectures.map ArchitectureSpec.name) processor) : right.Consistent width where
  distinct := alike.names.nodup_iff.mp consistent.distinct
  fits := by
    rw [← alike.extensions.length_eq]
    exact consistent.fits
  known dependency listed := by
    rw [← alike.names.mem_iff, ← alike.names.mem_iff]
    exact consistent.known dependency ((alike.dependencies dependency).mpr listed)
  acyclic := by
    have same : ∀ earlier later, (earlier, later) ∈ edges right.dependencies ↔
        (earlier, later) ∈ edges left.dependencies := by
      simp [edges, alike.dependencies]
    intro node reached
    apply consistent.acyclic node
    simpa only [Graph.Reaches, same] using reached
  architectures := by
    rw [← alike.architectures]
    exact (inOrder_congr fun _ => alike.names.mem_iff).mp consistent.architectures
  distinctProcessors := distinctProcessors
  supported processor listed := by
    rcases supported processor listed with ⟨declared, known⟩
    rw [← alike.architectures]
    exact ⟨declared, fun name member => alike.names.mem_iff.mp (known name member)⟩

end Alike

end CatalogSpec

/-! ## From descriptions to catalogs -/

namespace ModelCatalog

variable {left right : CatalogSpec} {catalog twin : ModelCatalog}

theorem Represents.extensions_sameByName (represents : Represents left catalog)
    (twinRepresents : Represents right twin) (alike : left.Alike right) :
    catalog.extensions.SameByName twin.extensions where
  leftAccepted := represents.accepted
  rightAccepted := twinRepresents.accepted
  extensions := by
    rw [represents.extensions, twinRepresents.extensions]
    exact alike.extensions.map extensionOf
  requires name other := by
    rw [represents.requires_iff, twinRepresents.requires_iff, represents.names_eq,
      twinRepresents.names_eq, alike.names.mem_iff, alike.requires_iff]
  aliases := by rw [represents.aliases, twinRepresents.aliases, alike.extensionAliases]

theorem Represents.architectures_sameByName (represents : Represents left catalog)
    (twinRepresents : Represents right twin) (alike : left.Alike right) :
    List.Forall₂ (Architecture.SameByName catalog.extensions twin.extensions)
      catalog.architectures twin.architectures := by
  have names := (represents.extensions_sameByName twinRepresents alike).names
  have ofTwin := twinRepresents.architectures
  rw [← alike.architectures, ← CatalogSpec.architectureDefaults_congr alike.architectures] at ofTwin
  refine forall₂_of_common ?_ represents.architectures ofTwin
  intro entry architecture other same sameOther
  constructor
  · rw [same.record, sameOther.record]
    rfl
  · exact ExtensionCatalog.sameSet_of_lists names same.defaults sameOther.defaults fun _ => Iff.rfl

theorem Represents.find?_processor (represents : Represents left catalog) (name : String) :
    Option.Rel (RepresentsProcessor catalog.extensions catalog.architectures)
      (left.processors.find? (·.name == name)) (catalog.processors.find? (·.name == name)) :=
  rel_find?_of_forall₂ represents.processors fun entry processor same => by rw [same.name]

theorem Represents.sameByName (represents : Represents left catalog)
    (twinRepresents : Represents right twin) (alike : left.Alike right) :
    catalog.SameByName twin := by
  have extensions := represents.extensions_sameByName twinRepresents alike
  have architectures := represents.architectures_sameByName twinRepresents alike
  have byName : ∀ name, Option.Rel (Architecture.SameByName catalog.extensions twin.extensions)
      (catalog.architectures.find? (·.name == name))
      (twin.architectures.find? (·.name == name)) := by
    intro name
    refine rel_find?_of_forall₂ architectures fun architecture other same => ?_
    rw [same.record]
  refine ⟨extensions, fun name => ?_, fun name => ?_⟩
  · refine rel_or (byName name) ?_
    refine rel_find?_of_forall₂ (List.forall₂_reverse_iff.mpr architectures) ?_
    intro architecture other same
    rw [same.record]
    rfl
  · rw [parseCpu?, parseCpu?, represents.cpuAliases, twinRepresents.cpuAliases, alike.cpuAliases]
    generalize right.cpuAliases.resolve name = canonical
    have ofLeft := represents.find?_processor canonical
    have ofRight := twinRepresents.find?_processor canonical
    have between := alike.processors canonical
    -- The two processors are built of entries that imply the same names.
    generalize left.processors.find? (·.name == canonical) = origin at ofLeft between
    generalize right.processors.find? (·.name == canonical) = twinOrigin at ofRight between
    generalize catalog.processors.find? (·.name == canonical) = processor at ofLeft ⊢
    generalize twin.processors.find? (·.name == canonical) = processorTwin at ofRight ⊢
    cases between with
    | none =>
        cases ofLeft
        cases ofRight
        exact .none
    | @some entry _ same =>
        rcases ofLeft with here | _
        rcases ofRight with hereRight | _
        refine .some ⟨?_, ?_⟩
        · have found := byName entry.arch
          rw [here.architecture, same.arch, hereRight.architecture] at found
          cases found with
          | some same => exact same
        · exact ExtensionCatalog.sameSet_of_lists extensions.names (represents.lists_implied here)
            (twinRepresents.lists_implied hereRight) same.implied

end ModelCatalog

end TargetFeatures
