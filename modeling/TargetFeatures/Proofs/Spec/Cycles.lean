import TargetFeatures.Proofs.Spec.Passes

/-!
# The verdict on cycles

A validation sorts the declared extensions along the dependencies between them. The sort assumes
that every node is listed once and that every edge joins nodes, and the description may fail to give
it either: extensions can be declared again, and dependencies can have unknown ends. The validation
therefore sorts each name once and leaves dependencies with an unknown end out. So the sort never
meets an unknown node, and what it cannot place are the extensions on a cycle of dependencies or
behind one (`Graph.sort_eq`), whatever else is wrong with the description.
-/

namespace TargetFeatures

/-- A list without repetitions keeps the order in which its entries first occur. -/
theorem pairwise_eraseDups {α : Type} [BEq α] [LawfulBEq α] (entries : List α) :
    entries.eraseDups.Pairwise fun first second => entries.idxOf first < entries.idxOf second := by
  induction entries using List.reverseRecOn with
  | nil => exact List.Pairwise.nil
  | append_singleton rest last ih =>
      have old : rest.eraseDups.Pairwise fun first second =>
          (rest ++ [last]).idxOf first < (rest ++ [last]).idxOf second := by
        refine ih.imp_of_mem fun {first second} firstMem secondMem before => ?_
        rwa [List.idxOf_append_of_mem (List.mem_eraseDups.mp firstMem),
          List.idxOf_append_of_mem (List.mem_eraseDups.mp secondMem)]
      rw [List.eraseDups_append, List.removeAll, List.filter_singleton]
      by_cases again : last ∈ rest
      · simpa [again] using old
      · have fresh : (!rest.elem last) = true := by simpa using again
        rw [fresh, cond_true]
        refine List.pairwise_append.mpr
          ⟨old, List.pairwise_singleton _ last, fun first firstMem second secondMem => ?_⟩
        have firstListed := List.mem_eraseDups.mp firstMem
        rw [List.mem_singleton.mp secondMem, List.idxOf_append_of_mem firstListed,
          List.idxOf_append_of_notMem again]
        exact Nat.lt_add_right _ (List.idxOf_lt_length_of_mem firstListed)

namespace CatalogSpec

variable {spec : CatalogSpec} {width : Int}

/-! ## The dependencies between declared extensions -/

/-- Whether a dependency leads from one declared extension to another. -/
def Leads (spec : CatalogSpec) (earlier later : String) : Prop :=
  ⟨earlier, later⟩ ∈ spec.dependencies ∧
    earlier ∈ spec.extensions.map ExtensionSpec.name ∧
    later ∈ spec.extensions.map ExtensionSpec.name

/-- Whether an extension comes back to itself along dependencies between declared extensions. -/
def OnCycle (spec : CatalogSpec) (name : String) : Prop := Relation.TransGen spec.Leads name name

/-- The edges that a validation sorts along. -/
def sortedEdges (spec : CatalogSpec) : List (String × String) :=
  knownEdges (spec.extensions.map ExtensionSpec.name) spec.dependencies

theorem mem_sortedEdges_iff {earlier later : String} :
    (earlier, later) ∈ spec.sortedEdges ↔ spec.Leads earlier later := by
  rw [sortedEdges, knownEdges, List.mem_map]
  simp only [List.mem_filter, Bool.and_eq_true, List.contains_iff_mem, Prod.mk.injEq]
  constructor
  · rintro ⟨dependency, ⟨listed, known⟩, rfl, rfl⟩
    exact ⟨listed, known⟩
  · rintro ⟨listed, known⟩
    exact ⟨_, ⟨listed, known⟩, rfl, rfl⟩

theorem reaches_sortedEdges : Graph.Reaches spec.sortedEdges = Relation.TransGen spec.Leads := by
  have same : (fun earlier later => (earlier, later) ∈ spec.sortedEdges) = spec.Leads := by
    funext earlier later
    exact propext mem_sortedEdges_iff
  rw [Graph.Reaches, same]

theorem acyclic_sortedEdges_iff :
    Graph.Acyclic spec.sortedEdges ↔ ∀ name, ¬spec.OnCycle name := by
  rw [Graph.Acyclic, reaches_sortedEdges]
  rfl

theorem behindCycle_sortedEdges_iff {name : String} :
    Graph.BehindCycle spec.sortedEdges name ↔
      ∃ origin, spec.OnCycle origin ∧ Relation.ReflTransGen spec.Leads origin name := by
  rw [Graph.BehindCycle, reaches_sortedEdges]
  simp only [OnCycle, Relation.reflTransGen_iff_eq_or_transGen, eq_comm]

theorem sortedEdges_within : ∀ edge ∈ spec.sortedEdges,
    edge.1 ∈ (spec.extensions.map ExtensionSpec.name).eraseDups ∧
      edge.2 ∈ (spec.extensions.map ExtensionSpec.name).eraseDups := by
  rintro ⟨earlier, later⟩ member
  rw [List.mem_eraseDups, List.mem_eraseDups]
  exact (mem_sortedEdges_iff.mp member).2

/-- The sort of a validation never meets a node that it does not know. -/
theorem sort_ne_unknownNode (spec : CatalogSpec) (node : String) :
    Graph.sort (spec.extensions.map ExtensionSpec.name).eraseDups spec.sortedEdges ≠
      .error (.unknownNode node) := by
  intro failed
  rcases Graph.eq_cycle_of_sort_eq_error (nodup_eraseDups _) sortedEdges_within failed with
    ⟨_, same, _⟩
  cases same

/-! ## The findings of one pass -/

theorem filter_findingsOf (pass other : Finding.Pass) :
    ((spec.findingsOf width other).filter fun finding => finding.pass = pass) =
      if other = pass then spec.findingsOf width other else [] := by
  split
  · next same =>
      refine List.filter_eq_self.mpr fun finding reported => ?_
      exact decide_eq_true ((pass_of_mem_findingsOf reported).trans same)
  · next different =>
      refine List.filter_eq_nil_iff.mpr fun finding reported => ?_
      rwa [pass_of_mem_findingsOf reported, decide_eq_true_iff]

/-- The findings of a pass are those that the validation reports of its kinds, in order. -/
theorem filter_pass_validate (pass : Finding.Pass) :
    ((spec.validate width).filter fun finding => finding.pass = pass) =
      spec.findingsOf width pass := by
  rw [validate_eq_findingsOf]
  simp only [List.filter_append, filter_findingsOf]
  cases pass with
  | aliases table => cases table <;> simp
  | _ => simp

theorem filter_cycle_validate :
    ((spec.validate width).filter fun finding => finding.category = "CYCLE") =
      cycleFindings (spec.extensions.map ExtensionSpec.name) spec.dependencies := by
  have samePass : ∀ finding : Finding, finding.category = "CYCLE" ↔ finding.pass = .cycles := by
    intro finding
    cases finding <;> simp [Finding.category, Finding.pass]
  simp only [samePass]
  exact filter_pass_validate .cycles

/-- Whatever is wrong with a description, the sort that a validation runs knows all its nodes. An
error about a cycle is reported once when a declared extension comes back to itself along
dependencies between declared extensions, and it lists the extensions that do so or depend on one
that does, each once and in the order of their first declarations. Otherwise none is reported. -/
theorem cycle_verdict_is_exact (spec : CatalogSpec) (width : Int) :
    let names := spec.extensions.map ExtensionSpec.name
    let reported := (spec.validate width).filter fun finding => finding.category = "CYCLE"
    (∀ node, Graph.sort names.eraseDups (knownEdges names spec.dependencies) ≠
      .error (.unknownNode node)) ∧
    ((∃ name, spec.OnCycle name) → ∃ listed, reported = [.cycle listed] ∧
      (listed.Pairwise fun first second => names.idxOf first < names.idxOf second) ∧
      ∀ name, name ∈ listed ↔ name ∈ names ∧
        ∃ origin, spec.OnCycle origin ∧ Relation.ReflTransGen spec.Leads origin name) ∧
    ((∀ name, ¬spec.OnCycle name) → reported = []) := by
  intro names reported
  refine ⟨spec.sort_ne_unknownNode, ?_⟩
  have outcome : reported = cycleFindings names spec.dependencies := filter_cycle_validate
  have nodup : names.eraseDups.Nodup := nodup_eraseDups names
  have sorts := Graph.exists_sort_eq_ok_iff nodup sortedEdges_within
  rw [acyclic_sortedEdges_iff] at sorts
  rw [cycleFindings] at outcome
  cases sorted : Graph.sort names.eraseDups (knownEdges names spec.dependencies) with
  | ok order =>
      rw [sorted] at outcome
      have none := sorts.mp ⟨order, sorted⟩
      refine ⟨?_, fun _ => outcome⟩
      rintro ⟨name, cycle⟩
      exact absurd cycle (none name)
  | error error =>
      rcases Graph.eq_cycle_of_sort_eq_error nodup sortedEdges_within sorted with
        ⟨listed, rfl, part, left⟩
      rw [sorted] at outcome
      refine ⟨fun _ => ⟨listed, outcome, (pairwise_eraseDups names).sublist part, ?_⟩, ?_⟩
      · intro name
        rw [left, List.mem_eraseDups, behindCycle_sortedEdges_iff]
      · intro none
        rcases sorts.mpr none with ⟨order, placed⟩
        cases sorted.symm.trans placed

end CatalogSpec

end TargetFeatures
