import TargetFeatures.Catalog.Extensions
import TargetFeatures.Proofs.Data.Failure
import TargetFeatures.Proofs.Graph.Placement

/-!
# Which extension catalogs are accepted

The passes of `ExtensionCatalog.ofRecords` check numbered records, edges between their numbers and
the absence of cycles. Each pass is characterised by what it lets through, and the whole constructor
by the conjunction. Later properties assume only `Accepted` and use of it that the edges join
extensions of the catalog and have no cycle.
-/

namespace TargetFeatures

/-! ## Distinct names -/

/-- Whether the names of a list are distinct and differ from those seen before. -/
def DistinctAfter (seen names : List String) : Prop :=
  names.Nodup ∧ ∀ name ∈ names, name ∉ seen

@[simp]
theorem distinctAfter_nil (seen : List String) : DistinctAfter seen [] := by simp [DistinctAfter]

@[simp]
theorem nil_distinctAfter {names : List String} : DistinctAfter [] names ↔ names.Nodup := by
  simp [DistinctAfter]

theorem distinctAfter_cons {seen rest : List String} {name : String} :
    DistinctAfter seen (name :: rest) ↔ name ∉ seen ∧ DistinctAfter (name :: seen) rest := by
  rw [DistinctAfter, DistinctAfter, List.nodup_cons, List.forall_mem_cons]
  simp only [List.mem_cons, not_or]
  constructor
  · rintro ⟨⟨notLater, distinct⟩, unseen, others⟩
    refine ⟨unseen, distinct, fun other member => ⟨?_, others other member⟩⟩
    rintro rfl
    exact notLater member
  · rintro ⟨unseen, distinct, others⟩
    exact ⟨⟨fun member => (others name member).1 rfl, distinct⟩, unseen,
      fun other member => (others other member).2⟩

namespace ExtensionCatalog

/-! ## Records -/

/-- The ids of `count` records from a position on. -/
def positions (position count : Nat) : List Int :=
  (List.range' position count).map Int.ofNat

theorem map_fst_eq_positions_iff {records : List (Int × Extension)} :
    records.map Prod.fst = positions 0 records.length ↔
      ∀ (position : Nat) (record : Int × Extension), records[position]? = some record →
        record.1 = position := by
  constructor
  · intro same position record found
    rcases List.getElem?_eq_some_iff.mp found with ⟨bound, rfl⟩
    have here := congrArg (·[position]?) same
    simpa [positions, bound] using here
  · intro numbered
    refine List.ext_getElem (by simp [positions]) fun position bound _ => ?_
    rw [List.length_map] at bound
    simpa [positions] using numbered position _ (List.getElem?_eq_getElem bound)

theorem checkRecords_eq_ok_iff {records : List (Int × Extension)} {position : Nat}
    {seen : List String} :
    checkRecords position seen records = .ok () ↔
      records.map Prod.fst = positions position records.length ∧
        DistinctAfter seen (records.map (·.2.name)) := by
  induction records generalizing position seen with
  | nil => simp [checkRecords, positions]
  | cons record rest ih =>
      rcases record with ⟨id, extension⟩
      simp only [checkRecords, positions, List.map_cons, List.length_cons, List.range'_succ,
        List.cons.injEq, distinctAfter_cons] at ih ⊢
      by_cases placed : id = position
      · by_cases again : extension.name ∈ seen
        · simp [placed, again]
        · simp [placed, again, ih]
      · simp [placed]

/-! ## Edges -/

theorem isId_iff {count : Nat} {id : Int} : isId count id = true ↔ 0 ≤ id ∧ id < count := by
  simp [isId]

/-- An edge between declared ids as an edge between positions. -/
def edgeOfIds (edge : Int × Int) : Nat × Nat := (edge.1.toNat, edge.2.toNat)

theorem checkEdges_eq_ok_iff {count : Nat} {edges : List (Int × Int)} {found : List (Nat × Nat)} :
    checkEdges count edges = .ok found ↔
      (∀ edge ∈ edges, isId count edge.1 = true ∧ isId count edge.2 = true) ∧
        edges.map edgeOfIds = found := by
  induction edges generalizing found with
  | nil => simp [checkEdges]
  | cons edge rest ih =>
      rcases edge with ⟨earlier, later⟩
      rw [checkEdges, List.forall_mem_cons, List.map_cons]
      by_cases earlierId : isId count earlier = true
      · by_cases laterId : isId count later = true
        · simp only [earlierId, laterId, Bool.not_true, Bool.false_eq_true, if_false, and_self,
            true_and]
          cases checked : checkEdges count rest with
          | error error =>
              have refused := @ih (rest.map edgeOfIds)
              rw [checked] at refused
              simp only [reduceCtorEq, and_true, false_iff] at refused
              simp only [reduceCtorEq, refused, false_and]
          | ok others =>
              rcases ih.mp checked with ⟨inRange, rfl⟩
              simp only [Except.ok.injEq]
              exact ⟨fun same => ⟨inRange, same⟩, And.right⟩
        · simp [earlierId, laterId]
      · simp [earlierId]

/-- Checked edges join positions below the number of records. -/
theorem lt_of_edgeOfIds {count : Nat} {edges : List (Int × Int)}
    (inRange : ∀ edge ∈ edges, isId count edge.1 = true ∧ isId count edge.2 = true) :
    ∀ edge ∈ edges.map edgeOfIds, edge.1 < count ∧ edge.2 < count := by
  intro edge member
  rcases List.mem_map.mp member with ⟨declared, declaredMem, rfl⟩
  rcases inRange declared declaredMem with ⟨earlierId, laterId⟩
  rw [isId_iff] at earlierId laterId
  simp only [edgeOfIds]
  omega

theorem checkAcyclic_eq_ok_iff {extensions : List Extension} {edges : List (Nat × Nat)}
    (within : ∀ edge ∈ edges, edge.1 < extensions.length ∧ edge.2 < extensions.length) :
    checkAcyclic extensions edges = .ok () ↔ Graph.Acyclic edges := by
  have nodup : (List.range extensions.length).Nodup := List.nodup_range
  have nodes : ∀ edge ∈ edges,
      edge.1 ∈ List.range extensions.length ∧ edge.2 ∈ List.range extensions.length := by
    simpa only [List.mem_range] using within
  rw [← Graph.exists_sort_eq_ok_iff nodup nodes, checkAcyclic]
  cases outcome : Graph.sort (List.range extensions.length) edges with
  | ok order => simp
  | error error =>
      rcases Graph.eq_cycle_of_sort_eq_error nodup nodes outcome with ⟨remaining, rfl, _⟩
      simp

/-! ## The constructor -/

section

variable {records : List (Int × Extension)} {edges : List (Int × Int)} {aliases : AliasTable}
  {width : Int}

theorem ofRecords_eq_ok_iff {catalog : ExtensionCatalog} :
    ofRecords records edges aliases width = .ok catalog ↔
      (records.length ≤ width ∧ records.map Prod.fst = positions 0 records.length ∧
        (records.map (·.2.name)).Nodup ∧
        (∀ edge ∈ edges, isId records.length edge.1 = true ∧ isId records.length edge.2 = true) ∧
        Graph.Acyclic (edges.map edgeOfIds)) ∧
      catalog = ⟨records.map Prod.snd, edges.map edgeOfIds, aliases, width⟩ := by
  rw [ofRecords]
  by_cases tooMany : width < records.length
  · simp [tooMany, Int.not_le.mpr tooMany]
  · simp only [tooMany, if_false, bind_eq_ok_iff, checkEdges_eq_ok_iff]
    constructor
    · rintro ⟨⟨⟩, recordsOk, found, ⟨inRange, rfl⟩, ⟨⟩, sorted, built⟩
      rcases checkRecords_eq_ok_iff.mp recordsOk with ⟨ids, distinct⟩
      have within := lt_of_edgeOfIds inRange
      rw [← List.length_map (f := Prod.snd)] at within
      injection built with same
      exact ⟨⟨Int.not_lt.mp tooMany, ids, nil_distinctAfter.mp distinct, inRange,
        (checkAcyclic_eq_ok_iff within).mp sorted⟩, same.symm⟩
    · rintro ⟨⟨_, ids, distinct, inRange, acyclic⟩, rfl⟩
      have within := lt_of_edgeOfIds inRange
      rw [← List.length_map (f := Prod.snd)] at within
      have recordsOk : checkRecords 0 [] records = .ok () :=
        checkRecords_eq_ok_iff.mpr ⟨ids, nil_distinctAfter.mpr distinct⟩
      exact ⟨(), recordsOk, _, ⟨inRange, rfl⟩, (), (checkAcyclic_eq_ok_iff within).mpr acyclic, rfl⟩

/-! ## What the constructor refuses -/

/-- What is wrong with numbered records, edges between their numbers and a width, together with the
inconsistency that reports it. -/
inductive Fault (records : List (Int × Extension)) (edges : List (Int × Int)) (width : Int) :
    CatalogError → Prop
  | tooMany (beyond : width < records.length) :
      Fault records edges width (.tooManyExtensions records.length width)
  | misplaced {before after : List (Int × Extension)} {id : Int} {extension : Extension}
      (split : records = before ++ (id, extension) :: after) (elsewhere : id ≠ before.length) :
      Fault records edges width (.misplacedId extension.name id before.length)
  | repeated {before after : List (Int × Extension)} {record : Int × Extension}
      (split : records = before ++ record :: after)
      (again : record.2.name ∈ before.map (·.2.name)) :
      Fault records edges width (.duplicateExtension record.2.name)
  | outside {earlier later endpoint : Int} (listed : (earlier, later) ∈ edges)
      (side : endpoint ∈ [earlier, later]) (unknown : ¬isId records.length endpoint = true) :
      Fault records edges width (.unknownEndpoint earlier later endpoint)
  | cyclic {names : List String} (cycle : ¬Graph.Acyclic edges)
      (listed : ∀ name, name ∈ names ↔ ∃ (position : Nat) (record : Int × Extension),
        records[position]? = some record ∧ record.2.name = name ∧
          Graph.BehindCycle edges (position : Int)) :
      Fault records edges width (.cyclic names)

theorem fault_of_checkRecords {before rest : List (Int × Extension)} {seen : List String}
    {error : CatalogError} (covered : ∀ name ∈ seen, name ∈ before.map (·.2.name))
    (failed : checkRecords before.length seen rest = .error error) :
    Fault (before ++ rest) edges width error := by
  induction rest generalizing before seen with
  | nil => cases failed
  | cons record rest ih =>
      rcases record with ⟨id, extension⟩
      rw [checkRecords] at failed
      split at failed
      · next elsewhere =>
          injection failed with same
          exact same ▸ .misplaced rfl elsewhere
      · split at failed
        · next again =>
            injection failed with same
            have listed := covered _ (List.contains_iff_mem.mp again)
            exact same ▸ @Fault.repeated _ _ _ before rest (id, extension) rfl listed
        · have following := @ih (before ++ [(id, extension)]) (extension.name :: seen) (by
            intro name member
            rw [List.map_append, List.mem_append]
            rcases List.mem_cons.mp member with rfl | old
            · exact Or.inr List.mem_cons_self
            · exact Or.inl (covered name old))
          rw [List.length_append, List.length_singleton, List.append_assoc] at following
          exact following failed

theorem fault_of_checkEdges {listed : List (Int × Int)} {error : CatalogError}
    (part : listed ⊆ edges) (failed : checkEdges records.length listed = .error error) :
    Fault records edges width error := by
  induction listed with
  | nil => cases failed
  | cons edge rest ih =>
      rcases edge with ⟨earlier, later⟩
      have member := part List.mem_cons_self
      rw [checkEdges] at failed
      split at failed
      · next unknown =>
          injection failed with same
          exact same ▸ .outside member (by simp) (by simpa using unknown)
      · split at failed
        · next unknown =>
            injection failed with same
            exact same ▸ .outside member (by simp) (by simpa using unknown)
        · split at failed
          · cases failed
          · next others =>
              injection failed with same
              exact ih (List.subset_of_cons_subset part) (same ▸ others)

section

variable (inRange : ∀ edge ∈ edges,
  isId records.length edge.1 = true ∧ isId records.length edge.2 = true)

include inRange

theorem mem_map_edgeOfIds_iff {earlier later : Nat} :
    (earlier, later) ∈ edges.map edgeOfIds ↔ ((earlier : Int), (later : Int)) ∈ edges := by
  constructor
  · intro member
    rcases List.mem_map.mp member with ⟨⟨declaredEarlier, declaredLater⟩, declared, same⟩
    have ids := inRange _ declared
    simp only [isId_iff] at ids
    simp only [edgeOfIds, Prod.mk.injEq] at same
    have earlierId : (earlier : Int) = declaredEarlier := by omega
    have laterId : (later : Int) = declaredLater := by omega
    rwa [earlierId, laterId]
  · exact fun member => List.mem_map_of_mem (f := edgeOfIds) member

/-- Positions are reached from each other along edges between positions as along edges between
ids. -/
theorem reaches_edgeOfIds_iff {first last : Nat} :
    Graph.Reaches (edges.map edgeOfIds) first last ↔
      Graph.Reaches edges (first : Int) (last : Int) := by
  constructor
  · exact Relation.TransGen.lift (fun id : Nat => (id : Int))
      (fun _ _ => (mem_map_edgeOfIds_iff inRange).mp) _ _
  · exact Relation.TransGen.lift Int.toNat (fun _ _ edge => List.mem_map_of_mem edge) _ _

theorem acyclic_edgeOfIds_iff :
    Graph.Acyclic (edges.map edgeOfIds) ↔ Graph.Acyclic edges := by
  constructor
  · exact Graph.Acyclic.of_map Int.toNat fun edge member => List.mem_map_of_mem member
  · exact fun acyclic id path => acyclic id ((reaches_edgeOfIds_iff inRange).mp path)

theorem behindCycle_edgeOfIds_iff {position : Nat} :
    Graph.BehindCycle (edges.map edgeOfIds) position ↔
      Graph.BehindCycle edges (position : Int) := by
  constructor
  · rintro ⟨origin, cycle, rfl | path⟩
    · exact ⟨origin, (reaches_edgeOfIds_iff inRange).mp cycle, Or.inl rfl⟩
    · exact ⟨origin, (reaches_edgeOfIds_iff inRange).mp cycle,
        Or.inr ((reaches_edgeOfIds_iff inRange).mp path)⟩
  · rintro ⟨origin, cycle, behind⟩
    -- An edge leads to the origin, so that it is a position as well.
    rcases Relation.TransGen.tail'_iff.mp cycle with ⟨_, _, last⟩
    have ids := (inRange _ last).2
    rw [isId_iff] at ids
    have natural : (origin.toNat : Int) = origin := Int.toNat_of_nonneg ids.1
    rw [← natural] at cycle behind
    refine ⟨origin.toNat, (reaches_edgeOfIds_iff inRange).mpr cycle, ?_⟩
    rw [reaches_edgeOfIds_iff inRange]
    exact behind.imp_left Int.ofNat.inj

theorem fault_of_checkAcyclic {error : CatalogError}
    (failed : checkAcyclic (records.map Prod.snd) (edges.map edgeOfIds) = .error error) :
    Fault records edges width error := by
  have within := lt_of_edgeOfIds inRange
  rw [← List.length_map (f := Prod.snd)] at within
  have cycle : ¬Graph.Acyclic (edges.map edgeOfIds) := by
    rw [← checkAcyclic_eq_ok_iff within, failed]
    exact nofun
  have nodes : ∀ edge ∈ edges.map edgeOfIds,
      edge.1 ∈ List.range (records.map Prod.snd).length ∧
        edge.2 ∈ List.range (records.map Prod.snd).length := by
    simpa only [List.mem_range] using within
  rw [checkAcyclic] at failed
  cases outcome : Graph.sort (List.range (records.map Prod.snd).length) (edges.map edgeOfIds) with
  | ok order =>
      rw [outcome] at failed
      cases failed
  | error cause =>
      rcases Graph.eq_cycle_of_sort_eq_error List.nodup_range nodes outcome with
        ⟨remaining, rfl, _, left⟩
      rw [outcome] at failed
      injection failed with same
      refine same ▸ .cyclic (mt (acyclic_edgeOfIds_iff inRange).mpr cycle) fun name => ?_
      simp only [namesOf, List.mem_filterMap, left, behindCycle_edgeOfIds_iff inRange]
      constructor
      · rintro ⟨position, ⟨_, behind⟩, named⟩
        simp only [List.getElem?_map, Option.map_map, Option.map_eq_some_iff] at named
        rcases named with ⟨record, found, rfl⟩
        exact ⟨position, record, found, rfl, behind⟩
      · rintro ⟨position, record, found, rfl, behind⟩
        have bound := (List.getElem?_eq_some_iff.mp found).1
        exact ⟨position, ⟨by simpa using bound, behind⟩, by simp [found]⟩

end

/-- The constructor only refuses for a fault that is there. -/
theorem fault_of_ofRecords {error : CatalogError}
    (failed : ofRecords records edges aliases width = .error error) :
    Fault records edges width error := by
  rw [ofRecords] at failed
  split at failed
  · next beyond =>
      injection failed with same
      exact same ▸ .tooMany beyond
  · simp only [bind_eq_error_iff] at failed
    rcases failed with misnumbered | ⟨_, _, unknown | ⟨found, edgesOk, cyclic | ⟨_, _, done⟩⟩⟩
    · exact @fault_of_checkRecords _ _ [] records [] error (by simp) misnumbered
    · exact fault_of_checkEdges (List.Subset.refl edges) unknown
    · rcases checkEdges_eq_ok_iff.mp edgesOk with ⟨inRange, rfl⟩
      exact fault_of_checkAcyclic inRange cyclic
    · cases done

/-- With ids, names and edges in order, the constructor can only miss room or meet a cycle. -/
theorem error_of_ofRecords_eq_error (ids : records.map Prod.fst = positions 0 records.length)
    (distinct : (records.map (·.2.name)).Nodup)
    (inRange : ∀ edge ∈ edges,
      isId records.length edge.1 = true ∧ isId records.length edge.2 = true)
    {error : CatalogError} (failed : ofRecords records edges aliases width = .error error) :
    error = .tooManyExtensions records.length width ∨ ∃ names, error = .cyclic names := by
  cases fault_of_ofRecords failed with
  | tooMany => exact Or.inl rfl
  | @misplaced before after id extension split elsewhere =>
      have found : records[before.length]? = some (id, extension) := by simp [split]
      exact absurd (map_fst_eq_positions_iff.mp ids _ _ found) elsewhere
  | repeated split again =>
      rw [split, List.map_append, List.map_cons] at distinct
      exact absurd List.mem_cons_self (List.disjoint_of_nodup_append distinct again)
  | outside listed side unknown =>
      simp only [List.mem_cons, List.not_mem_nil, or_false] at side
      rcases side with rfl | rfl
      · exact absurd (inRange _ listed).1 unknown
      · exact absurd (inRange _ listed).2 unknown
  | cyclic => exact Or.inr ⟨_, rfl⟩

end

/-- Whether a catalog comes out of its constructor. -/
def Accepted (catalog : ExtensionCatalog) : Prop :=
  ∃ records edges aliases width, ofRecords records edges aliases width = .ok catalog

/-- The edges of an accepted catalog join extensions of the catalog. -/
theorem Accepted.lt_size {catalog : ExtensionCatalog} (accepted : catalog.Accepted) :
    ∀ edge ∈ catalog.edges, edge.1 < catalog.size ∧ edge.2 < catalog.size := by
  rcases accepted with ⟨records, edges, aliases, width, built⟩
  rcases ofRecords_eq_ok_iff.mp built with ⟨⟨_, _, _, inRange, _⟩, rfl⟩
  have within := lt_of_edgeOfIds inRange
  rwa [← List.length_map (f := Prod.snd)] at within

/-- A small catalog: `sve` requires `simd`, which requires `fp`, and `crc` stands alone. -/
def small : ExtensionCatalog where
  extensions := ["fp", "simd", "sve", "crc"].map fun name =>
    ⟨name, "+" ++ name, "-" ++ name, none, none, 0⟩
  edges := [(0, 1), (1, 2)]
  aliases := AliasTable.empty.insert "neon" "simd"
  width := defaultWidth

theorem accepted_small : small.Accepted := by
  refine ⟨(positions 0 4).zip small.extensions, [(0, 1), (1, 2)], small.aliases, small.width, ?_⟩
  decide +kernel

end ExtensionCatalog

end TargetFeatures
