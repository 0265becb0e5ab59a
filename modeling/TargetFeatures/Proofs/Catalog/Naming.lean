import TargetFeatures.Proofs.Catalog.Dependency
import TargetFeatures.Proofs.Catalog.Mask

/-!
# Sets of extensions by name

The id of an extension is its position, so that a set of ids only means something together with a
catalog. `includes` asks a set for a name instead, and `Lists` says that a set is that of a list of
names. What is shown of a set in the end, names and feature tokens, depends on the extensions and on
these answers alone (`members?_eq`).
-/

namespace TargetFeatures

/-- The entries at some positions of a list, when the positions are chosen by the entries. -/
theorem filterMap_getElem?_filter_range {α : Type} (list : List α) {chosen : Nat → Bool}
    {kept : α → Bool} (same : ∀ position entry, list[position]? = some entry →
      chosen position = kept entry) :
    ((List.range list.length).filter chosen).filterMap (list[·]?) = list.filter kept := by
  induction list using List.reverseRecOn with
  | nil => rfl
  | append_singleton rest last ih =>
      have inside : ∀ position ∈ (List.range rest.length).filter chosen,
          (rest ++ [last])[position]? = rest[position]? := by
        intro position member
        apply List.getElem?_append_left
        exact List.mem_range.mp (List.mem_of_mem_filter member)
      have atEnd : (rest ++ [last])[rest.length]? = some last := by simp
      rw [List.length_append, List.length_singleton, List.range_succ, List.filter_append,
        List.filterMap_append, List.filterMap_congr inside, ih, List.filter_append]
      · congr 1
        rw [List.filter_singleton, List.filter_singleton, same _ _ atEnd]
        cases kept last <;> simp
      · intro position entry found
        have bound := (List.getElem?_eq_some_iff.mp found).1
        exact same position entry (by rwa [List.getElem?_append_left bound])

namespace ExtensionCatalog

variable {catalog : ExtensionCatalog} {name other : String} {id : Nat}

/-! ## Names and ids -/

/-- The names of a catalog in the order of their ids. -/
def names (catalog : ExtensionCatalog) : List String := catalog.extensions.map Extension.name

theorem Accepted.nodup_names (accepted : catalog.Accepted) : catalog.names.Nodup := by
  rcases accepted with ⟨records, edges, aliases, width, built⟩
  rcases ofRecords_eq_ok_iff.mp built with ⟨⟨_, _, distinct, _, _⟩, rfl⟩
  rw [names, List.map_map]
  exact distinct

theorem exists_find?_iff : (∃ id, catalog.find? name = some id) ↔ name ∈ catalog.names := by
  rw [← Option.isSome_iff_exists, find?, List.findIdx?_isSome, names, List.mem_map]
  simp

theorem find?_eq_none_iff : catalog.find? name = none ↔ name ∉ catalog.names := by
  rw [← exists_find?_iff, ← Option.isSome_iff_exists, Option.not_isSome_iff_eq_none]

theorem lt_size_of_find? (found : catalog.find? name = some id) : id < catalog.size :=
  (List.findIdx?_eq_some_iff_getElem.mp found).1

theorem getElem?_names_of_find? (found : catalog.find? name = some id) :
    catalog.names[id]? = some name := by
  rcases List.findIdx?_eq_some_iff_getElem.mp found with ⟨below, same, _⟩
  rw [names, List.getElem?_map, List.getElem?_eq_getElem below, Option.map_some]
  exact congrArg some (by simpa using same)

theorem name_eq_of_find? (first : catalog.find? name = some id)
    (second : catalog.find? other = some id) : name = other := by
  have same := (getElem?_names_of_find? first).symm.trans (getElem?_names_of_find? second)
  exact Option.some.inj same

theorem find?_eq_some_iff (distinct : catalog.names.Nodup) :
    catalog.find? name = some id ↔ catalog.names[id]? = some name := by
  constructor
  · exact getElem?_names_of_find?
  · intro named
    rcases exists_find?_iff.mpr (List.mem_of_getElem? named) with ⟨first, found⟩
    have below : first < catalog.names.length := by
      rw [names, List.length_map]
      exact lt_size_of_find? found
    have same : first = id :=
      (List.getElem?_inj below distinct).mp ((getElem?_names_of_find? found).trans named.symm)
    rw [found, same]

theorem exists_name_of_lt (distinct : catalog.names.Nodup) (below : id < catalog.size) :
    ∃ name, catalog.find? name = some id := by
  have bound : id < catalog.names.length := by
    rw [names, List.length_map]
    exact below
  exact ⟨_, (find?_eq_some_iff distinct).mpr (List.getElem?_eq_getElem bound)⟩

/-- Whether the extension with one name is that with another or requires it, directly or not. -/
def Requires (catalog : ExtensionCatalog) (name other : String) : Prop :=
  ∃ id required, catalog.find? name = some id ∧ catalog.find? other = some required ∧
    catalog.Ancestor id required

/-! ## Sets -/

/-- Whether a set has the extension with a name. -/
def includes (catalog : ExtensionCatalog) (mask : Int) (name : String) : Bool :=
  (catalog.find? name).any (Mask.contains mask)

theorem includes_iff {mask : Int} :
    catalog.includes mask name = true ↔
      ∃ id, catalog.find? name = some id ∧ Mask.contains mask id = true := by
  rw [includes, Option.any_eq_true]

theorem includes_of_find? {mask : Int} (found : catalog.find? name = some id) :
    catalog.includes mask name = Mask.contains mask id := by
  rw [includes, found]
  rfl

/-- Whether a set is that of the extensions with some names. -/
def Lists (catalog : ExtensionCatalog) (mask : Int) (names : List String) : Prop :=
  ∀ id, Mask.contains mask id = true ↔ ∃ name ∈ names, catalog.find? name = some id

namespace Lists

variable {first second : Int} {firstNames secondNames : List String}

theorem includes_iff (lists : catalog.Lists first firstNames) :
    catalog.includes first name = true ↔ name ∈ firstNames ∧ name ∈ catalog.names := by
  rw [ExtensionCatalog.includes_iff, ← exists_find?_iff]
  constructor
  · rintro ⟨id, found, member⟩
    rcases (lists id).mp member with ⟨known, listed, same⟩
    exact ⟨name_eq_of_find? same found ▸ listed, id, found⟩
  · rintro ⟨listed, id, found⟩
    exact ⟨id, found, (lists id).mpr ⟨name, listed, found⟩⟩

theorem isBelow (lists : catalog.Lists first firstNames) :
    Mask.isBelow catalog.size first = true := by
  rw [Mask.isBelow_iff]
  intro id member
  rcases (lists id).mp member with ⟨_, _, found⟩
  exact lt_size_of_find? found

theorem union (left : catalog.Lists first firstNames) (right : catalog.Lists second secondNames) :
    catalog.Lists (Mask.union first second) (firstNames ++ secondNames) := by
  intro id
  rw [Mask.contains_union, Bool.or_eq_true, left, right]
  simp only [List.mem_append, or_and_right, exists_or]

theorem difference {first second : Nat} (left : catalog.Lists first firstNames)
    (right : catalog.Lists second secondNames) :
    catalog.Lists (Mask.difference first second)
      (firstNames.filter fun name => !secondNames.contains name) := by
  intro id
  have kept := left id
  have dropped := right id
  rw [Mask.contains_natCast] at kept dropped ⊢
  rw [Mask.testBit_difference, Bool.and_eq_true, kept, Bool.not_eq_true', ← Bool.not_eq_true,
    dropped]
  simp only [List.mem_filter, List.contains_eq_mem, Bool.not_eq_true', decide_eq_false_iff_not]
  constructor
  · rintro ⟨⟨name, listed, found⟩, absent⟩
    exact ⟨name, ⟨listed, fun removed => absent ⟨name, removed, found⟩⟩, found⟩
  · rintro ⟨name, ⟨listed, stays⟩, found⟩
    refine ⟨⟨name, listed, found⟩, ?_⟩
    rintro ⟨other, removed, same⟩
    exact stays (name_eq_of_find? same found ▸ removed)

end Lists

theorem resolve_name_eq_ok_iff :
    catalog.resolve (.name name) = .ok id ↔ catalog.find? name = some id := by
  rw [resolve]
  cases catalog.find? name <;> simp

section

variable {references : List ExtensionRef}

/-- The ids of a list of references are those that its references resolve to. -/
theorem mem_of_resolveAll {ids : List Nat} (resolved : catalog.resolveAll references = .ok ids) :
    id ∈ ids ↔ ∃ reference ∈ references, catalog.resolve reference = .ok id := by
  induction references generalizing ids with
  | nil =>
      injection resolved with same
      simp [← same]
  | cons reference rest ih =>
      rw [resolveAll] at resolved
      simp only [bind_eq_ok_iff] at resolved
      rcases resolved with ⟨first, here, others, othersDone, made⟩
      injection made with same
      subst same
      rw [List.mem_cons, ih othersDone]
      simp [here, eq_comm]

theorem exists_resolveAll_eq_ok_iff :
    (∃ ids, catalog.resolveAll references = .ok ids) ↔
      ∀ reference ∈ references, ∃ id, catalog.resolve reference = .ok id := by
  induction references with
  | nil => simp [resolveAll]
  | cons reference rest ih =>
      rw [List.forall_mem_cons, ← ih, resolveAll]
      simp only [bind_eq_ok_iff]
      constructor
      · rintro ⟨_, id, found, ids, others, _⟩
        exact ⟨⟨id, found⟩, ids, others⟩
      · rintro ⟨⟨id, found⟩, ids, others⟩
        exact ⟨_, id, found, ids, others, rfl⟩

/-- The set of a list of references has the ids that its references resolve to. -/
theorem testBit_of_bitset {mask : Nat} (made : catalog.bitset references = .ok mask) :
    mask.testBit id = true ↔ ∃ reference ∈ references, catalog.resolve reference = .ok id := by
  rw [bitset, bind_eq_ok_iff] at made
  rcases made with ⟨ids, resolved, made⟩
  injection made with same
  rw [← same, Mask.testBit_ofIds, mem_of_resolveAll resolved]

theorem exists_bitset_eq_ok_iff :
    (∃ mask, catalog.bitset references = .ok mask) ↔
      ∀ reference ∈ references, ∃ id, catalog.resolve reference = .ok id := by
  rw [← exists_resolveAll_eq_ok_iff, bitset]
  simp only [bind_eq_ok_iff]
  constructor
  · rintro ⟨_, ids, found, _⟩
    exact ⟨ids, found⟩
  · rintro ⟨ids, found⟩
    exact ⟨_, ids, found, rfl⟩

end

theorem lists_bitsetOfNames {names : List String} {mask : Nat}
    (found : catalog.bitsetOfNames names = .ok mask) : catalog.Lists mask names := by
  intro id
  rw [Mask.contains_natCast, testBit_of_bitset found]
  simp [resolve_name_eq_ok_iff]

/-! ## What a set shows -/

theorem chosen_eq_includes (distinct : catalog.names.Nodup) (mask : Int) :
    ∀ position entry, catalog.extensions[position]? = some entry →
      Mask.contains mask position = catalog.includes mask entry.name := by
  intro position entry found
  refine (includes_of_find? ((find?_eq_some_iff distinct).mpr ?_)).symm
  rw [names, List.getElem?_map, found, Option.map_some]

theorem filterMap_get?_idsBelow (distinct : catalog.names.Nodup) (mask : Int) :
    (Mask.idsBelow catalog.size mask).filterMap catalog.get? =
      catalog.extensions.filter fun extension => catalog.includes mask extension.name :=
  filterMap_getElem?_filter_range _ (chosen_eq_includes distinct mask)

theorem members?_eq (distinct : catalog.names.Nodup) {mask : Int}
    (below : Mask.isBelow catalog.size mask = true) :
    catalog.members? mask =
      some (catalog.extensions.filter fun extension => catalog.includes mask extension.name) := by
  rw [members?, if_pos below, filterMap_get?_idsBelow distinct]

theorem names?_eq (distinct : catalog.names.Nodup) {mask : Int}
    (below : Mask.isBelow catalog.size mask = true) :
    catalog.names? mask = some (catalog.names.filter (catalog.includes mask)) := by
  rw [names?, members?_eq distinct below, Option.map_some, names, List.filter_map]
  rfl

/-- The names that are shown of a set are those of the list that it stands for. -/
theorem Lists.exists_names?_eq {mask : Int} {listed : List String}
    (lists : catalog.Lists mask listed) (distinct : catalog.names.Nodup)
    (known : ∀ name ∈ listed, name ∈ catalog.names) :
    ∃ shown, catalog.names? mask = some shown ∧ ∀ name, name ∈ shown ↔ name ∈ listed := by
  refine ⟨_, names?_eq distinct lists.isBelow, fun name => ?_⟩
  rw [List.mem_filter, lists.includes_iff]
  exact ⟨fun shown => shown.2.1, fun member => ⟨known name member, member, known name member⟩⟩

/-- Sets of two catalogs with the same extensions are equal when they include the same names. -/
theorem eq_of_includes {twin : ExtensionCatalog} (same : catalog.extensions = twin.extensions)
    (distinct : catalog.names.Nodup) {left right : Int}
    (leftBelow : Mask.isBelow catalog.size left = true)
    (rightBelow : Mask.isBelow twin.size right = true)
    (agree : ∀ name, catalog.includes left name = twin.includes right name) : left = right := by
  have sameSize : catalog.size = twin.size := by rw [size, size, same]
  apply Mask.eq_of_contains
  intro id
  by_cases below : id < catalog.size
  · rcases exists_name_of_lt distinct below with ⟨name, found⟩
    have twinFound : twin.find? name = some id := by rwa [find?, ← same]
    have answer := agree name
    rwa [includes_of_find? found, includes_of_find? twinFound] at answer
  · rw [Bool.eq_iff_iff]
    constructor
    · intro member
      exact absurd (Mask.isBelow_iff.mp leftBelow id member) below
    · intro member
      exact absurd (sameSize ▸ Mask.isBelow_iff.mp rightBelow id member) below

end ExtensionCatalog

end TargetFeatures
