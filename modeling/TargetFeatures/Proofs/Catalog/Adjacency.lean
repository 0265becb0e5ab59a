import TargetFeatures.Proofs.Catalog.Dependency

/-!
# Accepted graphs and their neighbours

An extension catalog is accepted when its records are numbered by their positions, have distinct
names and fit, and when its edges join these positions and have no cycle. Nothing else is refused,
and every refusal names a fault that is there. The neighbours of an extension of an accepted catalog
are listed once each, in the order in which their edges were first declared.
-/

namespace TargetFeatures.ExtensionCatalog

/-- The distinct sides of some items are listed in the order of the items that they come from. -/
theorem pairwise_distinct_sides {β : Type} [BEq β] [LawfulBEq β] {items : List β}
    {chosen : β → Bool} {side : β → Nat} (joined : Nat → β)
    (inverse : ∀ item ∈ items, chosen item = true → joined (side item) = item) :
    (distinct ((items.filter chosen).map side)).Pairwise fun first second =>
      items.idxOf (joined first) < items.idxOf (joined second) := by
  induction items using List.reverseRecOn with
  | nil => exact List.Pairwise.nil
  | append_singleton rest last ih =>
      have inverseRest : ∀ item ∈ rest, chosen item = true → joined (side item) = item :=
        fun item member => inverse item (List.mem_append_left _ member)
      have listed : ∀ id ∈ distinct ((rest.filter chosen).map side), joined id ∈ rest := by
        intro id member
        rcases List.mem_map.mp (mem_distinct.mp member) with ⟨item, kept, rfl⟩
        rcases List.mem_filter.mp kept with ⟨itemMem, isChosen⟩
        rwa [inverseRest item itemMem isChosen]
      have old : (distinct ((rest.filter chosen).map side)).Pairwise fun first second =>
          (rest ++ [last]).idxOf (joined first) < (rest ++ [last]).idxOf (joined second) := by
        refine (ih inverseRest).imp_of_mem fun {first second} firstMem secondMem before => ?_
        rwa [List.idxOf_append_of_mem (listed first firstMem),
          List.idxOf_append_of_mem (listed second secondMem)]
      rw [List.filter_append, List.filter_singleton]
      cases isChosen : chosen last with
      | false => simpa using old
      | true =>
          have lastJoined := inverse last (List.mem_append_right _ List.mem_cons_self) isChosen
          rw [cond_true, List.map_append, List.map_singleton, distinct_append_singleton]
          split
          · exact old
          · next fresh =>
              have lastFresh : last ∉ rest := by
                intro member
                exact fresh (mem_distinct.mpr
                  (List.mem_map_of_mem (List.mem_filter.mpr ⟨member, isChosen⟩)))
              refine List.pairwise_append.mpr ⟨old, List.pairwise_singleton _ _, ?_⟩
              intro first firstMem second secondMem
              rw [List.mem_singleton.mp secondMem, lastJoined,
                List.idxOf_append_of_mem (listed first firstMem),
                List.idxOf_append_of_notMem lastFresh]
              have bound := List.idxOf_lt_length_of_mem (listed first firstMem)
              omega

section

variable {records : List (Int × Extension)} {edges : List (Int × Int)} {catalog : ExtensionCatalog}
  (inRange : ∀ edge ∈ edges, isId records.length edge.1 = true ∧ isId records.length edge.2 = true)
  (declared : catalog.edges = edges.map edgeOfIds)

include inRange declared

theorem mem_prerequisites_iff_declared {earlier later : Nat} :
    earlier ∈ catalog.prerequisites later ↔ ((earlier : Int), (later : Int)) ∈ edges := by
  rw [mem_prerequisites, declared, mem_map_edgeOfIds_iff inRange]

theorem mem_dependents_iff_declared {earlier later : Nat} :
    later ∈ catalog.dependents earlier ↔ ((earlier : Int), (later : Int)) ∈ edges := by
  rw [mem_dependents, declared, mem_map_edgeOfIds_iff inRange]

theorem pairwise_prerequisites (later : Nat) :
    (catalog.prerequisites later).Pairwise fun (first second : Nat) =>
      edges.idxOf ((first : Int), (later : Int)) < edges.idxOf ((second : Int), (later : Int)) := by
  rw [prerequisites, declared, List.filter_map, List.map_map]
  refine pairwise_distinct_sides (fun id => ((id : Int), (later : Int))) ?_
  rintro ⟨declaredEarlier, declaredLater⟩ member chosen
  have ids := inRange _ member
  simp only [isId_iff] at ids
  simp only [Function.comp_apply, edgeOfIds, beq_iff_eq] at chosen ⊢
  rw [Prod.mk.injEq]
  omega

theorem pairwise_dependents (earlier : Nat) :
    (catalog.dependents earlier).Pairwise fun (first second : Nat) =>
      edges.idxOf ((earlier : Int), (first : Int)) <
        edges.idxOf ((earlier : Int), (second : Int)) := by
  rw [dependents, declared, List.filter_map, List.map_map]
  refine pairwise_distinct_sides (fun id => ((earlier : Int), (id : Int))) ?_
  rintro ⟨declaredEarlier, declaredLater⟩ member chosen
  have ids := inRange _ member
  simp only [isId_iff] at ids
  simp only [Function.comp_apply, edgeOfIds, beq_iff_eq] at chosen ⊢
  rw [Prod.mk.injEq]
  omega

end

theorem nodup_names_iff {records : List (Int × Extension)} :
    (records.map (·.2.name)).Nodup ↔
      ∀ (first second : Nat) (left right : Int × Extension), first < second →
        records[first]? = some left → records[second]? = some right →
          left.2.name ≠ right.2.name := by
  rw [List.Nodup, List.pairwise_map, List.pairwise_iff_getElem]
  constructor
  · intro distinct first second left right before foundLeft foundRight
    rcases List.getElem?_eq_some_iff.mp foundLeft with ⟨firstBound, rfl⟩
    rcases List.getElem?_eq_some_iff.mp foundRight with ⟨secondBound, rfl⟩
    exact distinct first second firstBound secondBound before
  · intro distinct first second firstBound secondBound before
    exact distinct first second _ _ before (List.getElem?_eq_getElem firstBound)
      (List.getElem?_eq_getElem secondBound)

theorem exists_ofRecords_eq_ok_iff {records : List (Int × Extension)} {edges : List (Int × Int)}
    {aliases : AliasTable} {width : Int} :
    (∃ catalog, ofRecords records edges aliases width = .ok catalog) ↔
      records.length ≤ width ∧
      (∀ (position : Nat) (record : Int × Extension), records[position]? = some record →
        record.1 = position) ∧
      (∀ (first second : Nat) (left right : Int × Extension), first < second →
        records[first]? = some left → records[second]? = some right →
          left.2.name ≠ right.2.name) ∧
      (∀ edge ∈ edges, ∀ endpoint ∈ [edge.1, edge.2],
        0 ≤ endpoint ∧ endpoint < records.length) ∧
      Graph.Acyclic edges := by
  have ends : (∀ edge ∈ edges,
      isId records.length edge.1 = true ∧ isId records.length edge.2 = true) ↔
      ∀ edge ∈ edges, ∀ endpoint ∈ [edge.1, edge.2],
        0 ≤ endpoint ∧ endpoint < records.length := by
    simp [isId_iff]
  simp only [ofRecords_eq_ok_iff, exists_and_left, exists_eq, and_true, map_fst_eq_positions_iff,
    nodup_names_iff, ← ends]
  refine and_congr_right fun _ => and_congr_right fun _ => and_congr_right fun _ =>
    and_congr_right fun inRange => acyclic_edgeOfIds_iff inRange

/-- Numbered records and edges between their numbers are refused exactly when there are more records
than fit, a record is not numbered by its position, two records share a name, an edge ends outside
the records, or the edges have a cycle; the inconsistency that is reported is a fault that is there.
Otherwise the catalog lists the prerequisites and the dependents of an extension once each, in the
order in which their edges were first declared, and one list is the converse of the other. -/
theorem accepts_well_formed_graphs (records : List (Int × Extension)) (edges : List (Int × Int))
    (aliases : AliasTable) (width : Int) :
    ((∃ error, ofRecords records edges aliases width = .error error) ↔
      width < records.length ∨
      (∃ (position : Nat) (record : Int × Extension), records[position]? = some record ∧
        record.1 ≠ position) ∨
      (∃ (first second : Nat) (left right : Int × Extension), first < second ∧
        records[first]? = some left ∧ records[second]? = some right ∧
        left.2.name = right.2.name) ∨
      (∃ edge ∈ edges, ∃ endpoint ∈ [edge.1, edge.2],
        ¬(0 ≤ endpoint ∧ endpoint < records.length)) ∨
      ¬Graph.Acyclic edges) ∧
    (∀ error, ofRecords records edges aliases width = .error error →
      Fault records edges width error) ∧
    ∀ catalog, ofRecords records edges aliases width = .ok catalog →
      (∀ earlier later : Nat,
        earlier ∈ catalog.prerequisites later ↔ ((earlier : Int), (later : Int)) ∈ edges) ∧
      (∀ later : Nat, (catalog.prerequisites later).Pairwise fun (first second : Nat) =>
        edges.idxOf ((first : Int), (later : Int)) <
          edges.idxOf ((second : Int), (later : Int))) ∧
      (∀ earlier later : Nat,
        later ∈ catalog.dependents earlier ↔ ((earlier : Int), (later : Int)) ∈ edges) ∧
      (∀ earlier : Nat, (catalog.dependents earlier).Pairwise fun (first second : Nat) =>
        edges.idxOf ((earlier : Int), (first : Int)) <
          edges.idxOf ((earlier : Int), (second : Int))) ∧
      ∀ earlier later : Nat,
        later ∈ catalog.dependents earlier ↔ earlier ∈ catalog.prerequisites later := by
  refine ⟨?_, fun error => fault_of_ofRecords, ?_⟩
  · rw [exists_eq_error_iff, exists_ofRecords_eq_ok_iff]
    simp only [not_and_or, not_forall, exists_prop, Int.not_le, not_not]
  · intro catalog built
    rcases ofRecords_eq_ok_iff.mp built with ⟨⟨_, _, _, inRange, _⟩, same⟩
    have declared : catalog.edges = edges.map edgeOfIds := by rw [same]
    have prerequisite := @mem_prerequisites_iff_declared records edges catalog inRange declared
    have dependent := @mem_dependents_iff_declared records edges catalog inRange declared
    refine ⟨fun _ _ => prerequisite, pairwise_prerequisites inRange declared, fun _ _ => dependent,
      pairwise_dependents inRange declared, fun _ _ => ?_⟩
    rw [prerequisite, dependent]

/-- Repeated edges count once, and their order is kept. -/
example :
    let catalog := { small with edges := [(3, 2), (0, 2), (3, 2), (1, 2)] }
    catalog.prerequisites 2 = [3, 0, 1] ∧ catalog.dependents 3 = [2] := by
  decide

end TargetFeatures.ExtensionCatalog
