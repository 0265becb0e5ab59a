import TargetFeatures.Catalog.Build
import TargetFeatures.Proofs.Catalog.Naming
import TargetFeatures.Proofs.Spec.Consistency

/-!
# Which descriptions become catalogs

Building turns names into ids and stops at the first inconsistency. `exists_build_eq_ok_iff` says
that it succeeds exactly for consistent descriptions. The dependencies have a cycle as edges between
names when they have one as edges between ids, because names and ids of a consistent list of
extensions determine each other. When building fails, the inconsistency is one of the description:
the ids that building makes up are always in order (`failsByName_build`). Together with the account
of the validation this makes the two agree.
-/

namespace TargetFeatures

/-- Whether an inconsistency is about ids, which a description does not have. -/
def CatalogError.concernsIds : CatalogError → Bool
  | .misplacedId .. => true
  | .unknownEndpoint .. => true
  | .unknownId .. => true
  | _ => false

namespace ModelCatalog

/-! ## Extensions -/

theorem firstRepeated?_eq_none_iff {seen names : List String} :
    firstRepeated? seen names = none ↔ DistinctAfter seen names := by
  induction names generalizing seen with
  | nil => simp [firstRepeated?]
  | cons name rest ih =>
      rw [firstRepeated?, distinctAfter_cons, ← ih]
      by_cases again : name ∈ seen <;> simp [again]

/-- A dependency as an edge between the positions of its ends. -/
def idEdge (names : List String) (dependency : DependencySpec) : Int × Int :=
  (names.idxOf dependency.earlier, names.idxOf dependency.later)

theorem endpoint_eq_ok_iff {names : List String} {dependency : DependencySpec} {name : String}
    {id : Int} :
    endpoint names dependency name = .ok id ↔ name ∈ names ∧ (names.idxOf name : Int) = id := by
  by_cases known : name ∈ names <;> simp [endpoint, known]

theorem edgesOf_eq_ok_iff {names : List String} {dependencies : List DependencySpec}
    {edges : List (Int × Int)} :
    edgesOf names dependencies = .ok edges ↔
      (∀ dependency ∈ dependencies, dependency.earlier ∈ names ∧ dependency.later ∈ names) ∧
        dependencies.map (idEdge names) = edges := by
  induction dependencies generalizing edges with
  | nil => simp [edgesOf]
  | cons dependency rest ih =>
      simp only [edgesOf, bind_eq_ok_iff, endpoint_eq_ok_iff, ih, List.forall_mem_cons,
        List.map_cons]
      constructor
      · rintro ⟨_, ⟨earlierKnown, rfl⟩, _, ⟨laterKnown, rfl⟩, _, ⟨known, rfl⟩, built⟩
        injection built with same
        exact ⟨⟨⟨earlierKnown, laterKnown⟩, known⟩, same⟩
      · rintro ⟨⟨⟨earlierKnown, laterKnown⟩, known⟩, rfl⟩
        exact ⟨_, ⟨earlierKnown, rfl⟩, _, ⟨laterKnown, rfl⟩, _, ⟨known, rfl⟩, rfl⟩

theorem getD_idxOf {names : List String} {name : String} (known : name ∈ names) :
    names.getD (names.idxOf name) "" = name := by
  have below := List.idxOf_lt_length_of_mem known
  rw [List.getD_eq_getElem?_getD, List.getElem?_eq_getElem below, List.getElem_idxOf,
    Option.getD_some]

/-- Edges between known names have a cycle when the edges between their ids have one. -/
theorem acyclic_idEdges_iff {names : List String} {dependencies : List DependencySpec}
    (known : ∀ dependency ∈ dependencies, dependency.earlier ∈ names ∧ dependency.later ∈ names) :
    Graph.Acyclic ((dependencies.map (idEdge names)).map ExtensionCatalog.edgeOfIds) ↔
      Graph.Acyclic (CatalogSpec.edges dependencies) := by
  have asIds : (dependencies.map (idEdge names)).map ExtensionCatalog.edgeOfIds =
      dependencies.map fun dependency =>
        (names.idxOf dependency.earlier, names.idxOf dependency.later) := by
    rw [List.map_map]
    rfl
  rw [asIds]
  constructor
  · refine Graph.Acyclic.of_map names.idxOf fun edge member => ?_
    rcases List.mem_map.mp member with ⟨dependency, listed, rfl⟩
    exact List.mem_map_of_mem listed
  · refine Graph.Acyclic.of_map (names.getD · "") fun edge member => ?_
    rcases List.mem_map.mp member with ⟨dependency, listed, rfl⟩
    rcases known dependency listed with ⟨earlierKnown, laterKnown⟩
    rw [getD_idxOf earlierKnown, getD_idxOf laterKnown]
    exact List.mem_map_of_mem listed

theorem map_snd_numbered (extensions : List Extension) :
    (numbered extensions).map Prod.snd = extensions := by
  rw [numbered, List.map_map]
  exact List.zipIdx_map_fst 0 extensions

theorem length_numbered (extensions : List Extension) :
    (numbered extensions).length = extensions.length := by
  simp [numbered]

theorem map_fst_numbered (extensions : List Extension) :
    (numbered extensions).map Prod.fst =
      ExtensionCatalog.positions 0 (numbered extensions).length := by
  rw [length_numbered, numbered, List.map_map, ExtensionCatalog.positions, ← List.zipIdx_map_snd,
    List.map_map]
  rfl

theorem map_name_numbered (extensions : List Extension) :
    (numbered extensions).map (·.2.name) = extensions.map Extension.name := by
  conv => rhs; rw [← map_snd_numbered extensions, List.map_map]
  rfl

theorem map_name_extensionOf (entries : List ExtensionSpec) :
    (entries.map extensionOf).map Extension.name = entries.map ExtensionSpec.name := by
  rw [List.map_map]
  rfl

/-- The ends of the edges between ids are positions of names. -/
theorem isId_idEdge {names : List String} {dependencies : List DependencySpec}
    (known : ∀ dependency ∈ dependencies, dependency.earlier ∈ names ∧ dependency.later ∈ names) :
    ∀ edge ∈ dependencies.map (idEdge names),
      ExtensionCatalog.isId names.length edge.1 = true ∧
        ExtensionCatalog.isId names.length edge.2 = true := by
  intro edge member
  rcases List.mem_map.mp member with ⟨dependency, listed, rfl⟩
  have earlierBelow := List.idxOf_lt_length_of_mem (known dependency listed).1
  have laterBelow := List.idxOf_lt_length_of_mem (known dependency listed).2
  simp only [ExtensionCatalog.isId_iff, idEdge]
  omega

/-- The extension catalog of a description is built when names, dependencies and their number are in
order, and then has the described names. -/
theorem buildExtensions_eq_ok_iff {spec : CatalogSpec} {catalog : ExtensionCatalog} :
    buildExtensions spec = .ok catalog ↔
      ((spec.extensions.map ExtensionSpec.name).Nodup ∧
        (spec.extensions.length : Int) ≤ ExtensionCatalog.defaultWidth ∧
        (∀ dependency ∈ spec.dependencies,
          dependency.earlier ∈ spec.extensions.map ExtensionSpec.name ∧
            dependency.later ∈ spec.extensions.map ExtensionSpec.name) ∧
        Graph.Acyclic (CatalogSpec.edges spec.dependencies)) ∧
      catalog = ⟨spec.extensions.map extensionOf,
        (spec.dependencies.map (idEdge (spec.extensions.map ExtensionSpec.name))).map
          ExtensionCatalog.edgeOfIds,
        spec.extensionAliases, ExtensionCatalog.defaultWidth⟩ := by
  rw [buildExtensions]
  cases repeated : firstRepeated? [] (spec.extensions.map ExtensionSpec.name) with
  | some name =>
      have duplicate : ¬(spec.extensions.map ExtensionSpec.name).Nodup := by
        rw [← nil_distinctAfter, ← firstRepeated?_eq_none_iff, repeated]
        exact Option.some_ne_none name
      simp [duplicate]
  | none =>
      have distinct := nil_distinctAfter.mp (firstRepeated?_eq_none_iff.mp repeated)
      simp only [bind_eq_ok_iff, edgesOf_eq_ok_iff, ExtensionCatalog.ofRecords_eq_ok_iff,
        map_fst_numbered, map_name_numbered, map_name_extensionOf, map_snd_numbered,
        length_numbered, List.length_map]
      constructor
      · rintro ⟨_, ⟨known, rfl⟩, ⟨fits, _, _, _, acyclic⟩, rfl⟩
        exact ⟨⟨distinct, fits, known, (acyclic_idEdges_iff known).mp acyclic⟩, rfl⟩
      · rintro ⟨⟨_, fits, known, acyclic⟩, rfl⟩
        have inRange := isId_idEdge known
        rw [List.length_map] at inRange
        exact ⟨_, ⟨known, rfl⟩, ⟨fits, trivial, distinct, inRange,
          (acyclic_idEdges_iff known).mpr acyclic⟩, rfl⟩

/-! ## Sets of names -/

theorem exists_resolve_name_eq_ok_iff {catalog : ExtensionCatalog} {name : String} :
    (∃ id, catalog.resolve (.name name) = .ok id) ↔
      name ∈ catalog.extensions.map Extension.name := by
  simp only [ExtensionCatalog.resolve_name_eq_ok_iff, ExtensionCatalog.exists_find?_iff]
  rfl

theorem exists_bitsetOfNames_eq_ok_iff {catalog : ExtensionCatalog} {names : List String} :
    (∃ mask, catalog.bitsetOfNames names = .ok mask) ↔
      ∀ name ∈ names, name ∈ catalog.extensions.map Extension.name := by
  rw [ExtensionCatalog.bitsetOfNames, ExtensionCatalog.exists_bitset_eq_ok_iff,
    List.forall_mem_map]
  simp only [exists_resolve_name_eq_ok_iff]

/-! ## Architectures -/

theorem exists_find?_name_iff {α : Type} {name : α → String} {records : List α}
    {wanted : String} :
    (∃ record, records.find? (name · == wanted) = some record) ↔ wanted ∈ records.map name := by
  rw [← Option.isSome_iff_exists, List.find?_isSome, List.mem_map]
  simp

theorem exists_inherited_eq_ok_iff {built : List Architecture} {entry : ArchitectureSpec} :
    (∃ start, inherited built entry = .ok start) ↔
      ∀ base ∈ entry.base, base ∈ built.map Architecture.name := by
  rw [inherited]
  cases entry.base with
  | none => simp
  | some base =>
      simp only [Option.mem_def, Option.some.injEq, forall_eq', ← exists_find?_name_iff]
      cases built.find? (·.name == base) <;> simp

theorem buildArchitecture_eq_ok_iff {extensions : ExtensionCatalog} {built : List Architecture}
    {entry : ArchitectureSpec} {architecture : Architecture} :
    buildArchitecture extensions built entry = .ok architecture ↔
      entry.name ∉ built.map Architecture.name ∧
        ∃ start, inherited built entry = .ok start ∧
        ∃ added, extensions.bitsetOfNames entry.add = .ok added ∧
        ∃ removed, extensions.bitsetOfNames entry.remove = .ok removed ∧
        (⟨entry.name, entry.major, entry.minor, entry.profile, entry.archFeature,
          Mask.difference (start.toNat ||| added) removed⟩ : Architecture) = architecture := by
  have repeated : (built.any (·.name == entry.name)) = true ↔
      entry.name ∈ built.map Architecture.name := by
    simp
  rw [buildArchitecture]
  split
  · next again =>
      have refused : ∀ {rest : PUnit → Except CatalogError Architecture},
          ((throw (.duplicateArchitecture entry.name) : Except CatalogError PUnit) >>= rest) =
            .error (.duplicateArchitecture entry.name) := rfl
      rw [refused]
      simp only [repeated.mp again, not_true_eq_false, false_and, reduceCtorEq]
  · next fresh =>
      rw [repeated] at fresh
      simp only [bind_eq_ok_iff, fresh, not_false_eq_true, true_and, pure, Except.pure,
        Except.ok.injEq]

theorem exists_buildArchitecture_eq_ok_iff {extensions : ExtensionCatalog}
    {built : List Architecture} {entry : ArchitectureSpec} :
    (∃ architecture, buildArchitecture extensions built entry = .ok architecture) ↔
      entry.name ∉ built.map Architecture.name ∧
        (∀ base ∈ entry.base, base ∈ built.map Architecture.name) ∧
        ∀ name ∈ entry.add ++ entry.remove, name ∈ extensions.extensions.map Extension.name := by
  rw [List.forall_mem_append, ← exists_inherited_eq_ok_iff, ← exists_bitsetOfNames_eq_ok_iff,
    ← exists_bitsetOfNames_eq_ok_iff]
  simp only [buildArchitecture_eq_ok_iff]
  constructor
  · rintro ⟨_, fresh, start, startOk, added, addedOk, removed, removedOk, _⟩
    exact ⟨fresh, ⟨start, startOk⟩, ⟨added, addedOk⟩, removed, removedOk⟩
  · rintro ⟨fresh, ⟨start, startOk⟩, ⟨added, addedOk⟩, removed, removedOk⟩
    exact ⟨_, fresh, start, startOk, added, addedOk, removed, removedOk, rfl⟩

theorem name_of_buildArchitecture {extensions : ExtensionCatalog} {built : List Architecture}
    {entry : ArchitectureSpec} {architecture : Architecture}
    (done : buildArchitecture extensions built entry = .ok architecture) :
    architecture.name = entry.name := by
  rcases buildArchitecture_eq_ok_iff.mp done with ⟨_, _, _, _, _, _, _, rfl⟩
  rfl

theorem exists_buildArchitectures_eq_ok_iff {extensions : ExtensionCatalog}
    {built : List Architecture} {entries : List ArchitectureSpec} {declared : List String}
    (keys : ∀ name, name ∈ built.map Architecture.name ↔ name ∈ declared) :
    (∃ architectures, buildArchitectures extensions built entries = .ok architectures) ↔
      CatalogSpec.InOrder (extensions.extensions.map Extension.name) declared entries := by
  induction entries generalizing built declared with
  | nil => simp [buildArchitectures, CatalogSpec.InOrder]
  | cons entry rest ih =>
      have following : ∀ {architecture : Architecture}, architecture.name = entry.name →
          ∀ name, name ∈ (built ++ [architecture]).map Architecture.name ↔
            name ∈ entry.name :: declared := by
        intro architecture named name
        simp [← keys, named, or_comm]
      have here := @exists_buildArchitecture_eq_ok_iff extensions built entry
      simp only [keys] at here
      rw [CatalogSpec.InOrder, ← and_assoc, ← and_assoc, and_assoc (a := _ ∉ _), ← here,
        buildArchitectures]
      simp only [bind_eq_ok_iff]
      constructor
      · rintro ⟨architectures, architecture, done, others⟩
        exact ⟨⟨architecture, done⟩,
          (ih (following (name_of_buildArchitecture done))).mp ⟨architectures, others⟩⟩
      · rintro ⟨⟨architecture, done⟩, others⟩
        rcases (ih (following (name_of_buildArchitecture done))).mpr others with
          ⟨architectures, othersDone⟩
        exact ⟨architectures, architecture, done, othersDone⟩

theorem names_of_buildArchitectures {extensions : ExtensionCatalog} {built : List Architecture}
    {entries : List ArchitectureSpec} {architectures : List Architecture}
    (done : buildArchitectures extensions built entries = .ok architectures) :
    architectures.map Architecture.name =
      built.map Architecture.name ++ entries.map ArchitectureSpec.name := by
  induction entries generalizing built with
  | nil =>
      injection done with same
      simp [same]
  | cons entry rest ih =>
      rw [buildArchitectures, bind_eq_ok_iff] at done
      rcases done with ⟨architecture, here, others⟩
      rw [ih others, List.map_append, List.append_assoc, List.map_singleton,
        name_of_buildArchitecture here]
      rfl

theorem distinctAfter_of_inOrder {names declared : List String} {entries : List ArchitectureSpec}
    (inOrder : CatalogSpec.InOrder names declared entries) :
    DistinctAfter declared (entries.map ArchitectureSpec.name) := by
  induction entries generalizing declared with
  | nil => simp
  | cons entry rest ih =>
      rw [List.map_cons, distinctAfter_cons]
      exact ⟨inOrder.1, ih inOrder.2.2.2⟩

/-! ## Processors -/

theorem exists_buildProcessors_eq_ok_iff {extensions : ExtensionCatalog}
    {architectures : List Architecture} {entries : List ProcessorSpec} :
    (∃ processors, buildProcessors extensions architectures entries = .ok processors) ↔
      ∀ entry ∈ entries, CatalogSpec.Supported (extensions.extensions.map Extension.name)
        (architectures.map Architecture.name) entry := by
  have each : ∀ entry,
      (∃ processor, buildProcessor extensions architectures entry = .ok processor) ↔
      CatalogSpec.Supported (extensions.extensions.map Extension.name)
        (architectures.map Architecture.name) entry := by
    intro entry
    rw [CatalogSpec.Supported, ← exists_find?_name_iff, ← exists_bitsetOfNames_eq_ok_iff,
      buildProcessor]
    cases architectures.find? (·.name == entry.arch) with
    | none => simp
    | some architecture =>
        simp only [bind_eq_ok_iff, Option.some.injEq, exists_eq', true_and]
        constructor
        · rintro ⟨_, mask, found, _⟩
          exact ⟨mask, found⟩
        · rintro ⟨mask, found⟩
          exact ⟨_, mask, found, rfl⟩
  induction entries with
  | nil => simp [buildProcessors]
  | cons entry rest ih =>
      rw [List.forall_mem_cons, buildProcessors]
      simp only [bind_eq_ok_iff]
      constructor
      · rintro ⟨_, processor, here, processors, others, _⟩
        exact ⟨(each entry).mp ⟨processor, here⟩, ih.mp ⟨processors, others⟩⟩
      · rintro ⟨supported, othersSupported⟩
        rcases (each entry).mpr supported with ⟨processor, here⟩
        rcases ih.mpr othersSupported with ⟨processors, others⟩
        exact ⟨_, processor, here, processors, others, rfl⟩

theorem names_of_buildProcessors {extensions : ExtensionCatalog} {architectures : List Architecture}
    {entries : List ProcessorSpec} {processors : List Processor}
    (done : buildProcessors extensions architectures entries = .ok processors) :
    processors.map Processor.name = entries.map ProcessorSpec.name := by
  induction entries generalizing processors with
  | nil =>
      injection done with same
      simp [← same]
  | cons entry rest ih =>
      simp only [buildProcessors, bind_eq_ok_iff] at done
      rcases done with ⟨processor, here, others, othersDone, built⟩
      injection built with same
      rw [← same, List.map_cons, List.map_cons, ih othersDone]
      rw [buildProcessor] at here
      split at here
      · cases here
      · rw [bind_eq_ok_iff] at here
        rcases here with ⟨_, _, made⟩
        injection made with same
        rw [← same]

/-! ## The whole catalog -/

theorem ofParts_eq_ok_iff {extensions : ExtensionCatalog} {architectures : List Architecture}
    {processors : List Processor} {cpuAliases : AliasTable} {catalog : ModelCatalog} :
    ofParts extensions architectures processors cpuAliases = .ok catalog ↔
      ((architectures.map Architecture.name).Nodup ∧ (processors.map Processor.name).Nodup) ∧
        catalog = ⟨extensions, architectures, processors, cpuAliases⟩ := by
  rw [← nil_distinctAfter, ← nil_distinctAfter, ← firstRepeated?_eq_none_iff,
    ← firstRepeated?_eq_none_iff, ofParts]
  cases firstRepeated? [] (architectures.map Architecture.name) with
  | some name => simp
  | none => cases firstRepeated? [] (processors.map Processor.name) <;> simp [eq_comm]

/-- A catalog is built exactly of a consistent description. -/
theorem exists_build_eq_ok_iff {spec : CatalogSpec} :
    (∃ catalog, build spec = .ok catalog) ↔ spec.Consistent ExtensionCatalog.defaultWidth := by
  have start : ∀ name, name ∈ ([] : List Architecture).map Architecture.name ↔
      name ∈ ([] : List String) := by
    simp
  simp only [build, bind_eq_ok_iff]
  constructor
  · rintro ⟨catalog, extensions, extensionsOk, architectures, architecturesOk, processors,
      processorsOk, partsOk⟩
    rcases buildExtensions_eq_ok_iff.mp extensionsOk with ⟨⟨distinct, fits, known, acyclic⟩, rfl⟩
    have inOrder := (exists_buildArchitectures_eq_ok_iff start).mp ⟨_, architecturesOk⟩
    have supported := exists_buildProcessors_eq_ok_iff.mp ⟨_, processorsOk⟩
    have parts := (ofParts_eq_ok_iff.mp partsOk).1
    rw [map_name_extensionOf] at inOrder supported
    rw [names_of_buildArchitectures architecturesOk] at supported
    rw [names_of_buildProcessors processorsOk] at parts
    exact ⟨distinct, fits, known, acyclic, inOrder, parts.2, supported⟩
  · intro consistent
    have described : ∃ extensions, buildExtensions spec = .ok extensions ∧
        extensions.extensions.map Extension.name = spec.extensions.map ExtensionSpec.name :=
      ⟨_, buildExtensions_eq_ok_iff.mpr ⟨⟨consistent.distinct, consistent.fits, consistent.known,
        consistent.acyclic⟩, rfl⟩, map_name_extensionOf _⟩
    rcases described with ⟨extensions, extensionsOk, described⟩
    have inOrder := consistent.architectures
    have supported := consistent.supported
    rw [← described] at inOrder supported
    rcases (exists_buildArchitectures_eq_ok_iff start).mpr inOrder with
      ⟨architectures, architecturesOk⟩
    have architectureNames := names_of_buildArchitectures architecturesOk
    rw [List.map_nil, List.nil_append] at architectureNames
    rw [← architectureNames] at supported
    rcases exists_buildProcessors_eq_ok_iff.mpr supported with ⟨processors, processorsOk⟩
    have distinct : (architectures.map Architecture.name).Nodup ∧
        (processors.map Processor.name).Nodup := by
      rw [architectureNames, names_of_buildProcessors processorsOk]
      exact ⟨nil_distinctAfter.mp (distinctAfter_of_inOrder consistent.architectures),
        consistent.distinctProcessors⟩
    exact ⟨_, extensions, extensionsOk, architectures, architecturesOk, processors, processorsOk,
      ofParts_eq_ok_iff.mpr ⟨distinct, rfl⟩⟩

/-! ## Inconsistencies of a description -/

/-- Whether an action can only fail with an inconsistency that is not about ids. -/
def FailsByName {α : Type} (action : Except CatalogError α) : Prop :=
  ∀ error, action = .error error → error.concernsIds = false

section

variable {α β : Type} {action : Except CatalogError α}

theorem failsByName_ok (value : α) : FailsByName (.ok value) := fun _ failed => nomatch failed

theorem failsByName_error {error : CatalogError} (named : error.concernsIds = false) :
    FailsByName (.error error : Except CatalogError α) := by
  rintro _ ⟨⟩
  exact named

theorem FailsByName.bind {next : α → Except CatalogError β} (first : FailsByName action)
    (following : ∀ value, action = .ok value → FailsByName (next value)) :
    FailsByName (action >>= next) := by
  intro error failed
  rcases bind_eq_error_iff.mp failed with early | ⟨value, done, late⟩
  · exact first error early
  · exact following value done error late

end

theorem failsByName_edgesOf (names : List String) (dependencies : List DependencySpec) :
    FailsByName (edgesOf names dependencies) := by
  have ends : ∀ dependency name, FailsByName (endpoint names dependency name) := by
    intro dependency name
    rw [endpoint]
    split
    · exact failsByName_ok _
    · exact failsByName_error rfl
  induction dependencies with
  | nil => exact failsByName_ok _
  | cons dependency rest ih =>
      exact (ends _ _).bind fun _ _ => (ends _ _).bind fun _ _ =>
        ih.bind fun _ _ => failsByName_ok _

theorem failsByName_buildExtensions (spec : CatalogSpec) : FailsByName (buildExtensions spec) := by
  rw [buildExtensions]
  split
  · exact failsByName_error rfl
  · next distinct =>
      refine (failsByName_edgesOf _ _).bind fun edges found error failed => ?_
      rcases edgesOf_eq_ok_iff.mp found with ⟨known, rfl⟩
      have distinctRecords :
          ((numbered (spec.extensions.map extensionOf)).map (·.2.name)).Nodup := by
        rw [map_name_numbered, map_name_extensionOf]
        exact nil_distinctAfter.mp (firstRepeated?_eq_none_iff.mp distinct)
      have inRange := isId_idEdge known
      rw [List.length_map, ← List.length_map (f := extensionOf), ← length_numbered] at inRange
      rcases ExtensionCatalog.error_of_ofRecords_eq_error (map_fst_numbered _) distinctRecords
        inRange failed with rfl | ⟨_, rfl⟩ <;> rfl

theorem failsByName_bitsetOfNames (catalog : ExtensionCatalog) (names : List String) :
    FailsByName (catalog.bitsetOfNames names) := by
  have resolved : FailsByName (catalog.resolveAll (names.map .name)) := by
    induction names with
    | nil => exact failsByName_ok _
    | cons name rest ih =>
        have here : FailsByName (catalog.resolve (.name name)) := by
          rw [ExtensionCatalog.resolve]
          split
          · exact failsByName_ok _
          · exact failsByName_error rfl
        exact here.bind fun _ _ => ih.bind fun _ _ => failsByName_ok _
  exact resolved.bind fun _ _ => failsByName_ok _

theorem failsByName_buildArchitectures (extensions : ExtensionCatalog) (built : List Architecture)
    (entries : List ArchitectureSpec) :
    FailsByName (buildArchitectures extensions built entries) := by
  have each : ∀ built entry, FailsByName (buildArchitecture extensions built entry) := by
    intro built entry
    have inheritance : FailsByName (inherited built entry) := by
      rw [inherited]
      split
      · exact failsByName_ok _
      · split
        · exact failsByName_ok _
        · exact failsByName_error rfl
    rw [buildArchitecture]
    split
    · exact (failsByName_error rfl).bind fun _ => nofun
    · exact inheritance.bind fun _ _ => (failsByName_bitsetOfNames _ _).bind fun _ _ =>
        (failsByName_bitsetOfNames _ _).bind fun _ _ => failsByName_ok _
  induction entries generalizing built with
  | nil => exact failsByName_ok _
  | cons entry rest ih => exact (each built entry).bind fun _ _ => ih _

theorem failsByName_buildProcessors (extensions : ExtensionCatalog)
    (architectures : List Architecture) (entries : List ProcessorSpec) :
    FailsByName (buildProcessors extensions architectures entries) := by
  induction entries with
  | nil => exact failsByName_ok _
  | cons entry rest ih =>
      have here : FailsByName (buildProcessor extensions architectures entry) := by
        rw [buildProcessor]
        split
        · exact failsByName_error rfl
        · exact (failsByName_bitsetOfNames _ _).bind fun _ _ => failsByName_ok _
      exact here.bind fun _ _ => ih.bind fun _ _ => failsByName_ok _

theorem failsByName_ofParts (extensions : ExtensionCatalog) (architectures : List Architecture)
    (processors : List Processor) (cpuAliases : AliasTable) :
    FailsByName (ofParts extensions architectures processors cpuAliases) := by
  rw [ofParts]
  split
  · exact failsByName_error rfl
  · split
    · exact failsByName_error rfl
    · exact failsByName_ok _

/-- Building a catalog meets no inconsistency about ids. -/
theorem failsByName_build (spec : CatalogSpec) : FailsByName (build spec) :=
  (failsByName_buildExtensions spec).bind fun _ _ =>
    (failsByName_buildArchitectures _ _ _).bind fun _ _ =>
      (failsByName_buildProcessors _ _ _).bind fun _ _ => failsByName_ofParts _ _ _ _

/-! ## Building and validating -/

/-- Building fails exactly when validation reports an error about something other than the target
of an alternate name, and gives a catalog otherwise. It fails with an inconsistency of the
description and never because of an id, which is what a node that the sort of the ids does not know
would lead to. -/
theorem build_agrees_with_validate (spec : CatalogSpec) :
    ((∃ error, build spec = .error error) ↔
      ∃ finding ∈ spec.validate ExtensionCatalog.defaultWidth,
        finding.isError = true ∧ finding.category ≠ "ALIAS_TARGET") ∧
    ((∃ catalog, build spec = .ok catalog) ↔
      ∀ finding ∈ spec.validate ExtensionCatalog.defaultWidth,
        finding.isError = true → finding.category = "ALIAS_TARGET") ∧
    ∀ error, build spec = .error error → error.concernsIds = false := by
  have built : (∃ catalog, build spec = .ok catalog) ↔
      CatalogSpec.Harmless (spec.validate ExtensionCatalog.defaultWidth) :=
    exists_build_eq_ok_iff.trans CatalogSpec.harmless_validate.symm
  refine ⟨?_, ?_, failsByName_build spec⟩
  · rw [exists_eq_error_iff, built]
    simp only [CatalogSpec.Harmless, Finding.Blocks, not_forall, not_not, exists_prop]
  · rw [built]
    simp only [CatalogSpec.Harmless, Finding.Blocks, not_and, not_not]

/-- An alternate name for nothing is an error, but does not stand in the way. -/
example :
    let spec : CatalogSpec := ⟨[], [], [], [], AliasTable.empty.insert "a78" "cortex-a78", .empty⟩
    (spec.validate ExtensionCatalog.defaultWidth).any Finding.isError = true ∧
      (build spec).toOption.isSome = true := by
  cbv

end ModelCatalog

end TargetFeatures
