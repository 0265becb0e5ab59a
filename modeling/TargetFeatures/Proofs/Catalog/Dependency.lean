import TargetFeatures.Proofs.Catalog.Acceptance

/-!
# What an extension requires

An extension requires its prerequisites, and through them further extensions. `Ancestor` follows the
prerequisites of an extension any number of times, and `Descendant` the dependents. The two lists of
neighbours come from the same edges, so one relation is the other turned round.
-/

namespace TargetFeatures.ExtensionCatalog

variable {catalog : ExtensionCatalog}

theorem distinct_append_singleton (ids : List Nat) (id : Nat) :
    distinct (ids ++ [id]) = if id ∈ distinct ids then distinct ids else distinct ids ++ [id] := by
  simp [distinct, List.foldl_append]

theorem mem_distinct {ids : List Nat} {id : Nat} : id ∈ distinct ids ↔ id ∈ ids := by
  induction ids using List.reverseRecOn with
  | nil => rfl
  | append_singleton rest last ih =>
      rw [distinct_append_singleton, List.mem_append, List.mem_singleton, ← ih]
      split
      · next again => exact (or_iff_left_of_imp fun same => same ▸ again).symm
      · rw [List.mem_append, List.mem_singleton]

theorem mem_prerequisites {id prerequisite : Nat} :
    prerequisite ∈ catalog.prerequisites id ↔ (prerequisite, id) ∈ catalog.edges := by
  simp [prerequisites, mem_distinct]

theorem mem_dependents {id dependent : Nat} :
    dependent ∈ catalog.dependents id ↔ (id, dependent) ∈ catalog.edges := by
  simp [dependents, mem_distinct]

/-- Whether an extension is another one or reached from it through prerequisites. -/
def Ancestor (catalog : ExtensionCatalog) : Nat → Nat → Prop :=
  Relation.ReflTransGen fun id prerequisite => prerequisite ∈ catalog.prerequisites id

/-- Whether an extension is another one or reached from it through dependents. -/
def Descendant (catalog : ExtensionCatalog) : Nat → Nat → Prop :=
  Relation.ReflTransGen fun id dependent => dependent ∈ catalog.dependents id

theorem Ancestor.refl (id : Nat) : catalog.Ancestor id id := Relation.ReflTransGen.refl

theorem Ancestor.trans {id middle ancestor : Nat} (first : catalog.Ancestor id middle)
    (second : catalog.Ancestor middle ancestor) : catalog.Ancestor id ancestor :=
  Relation.ReflTransGen.trans first second

theorem Ancestor.of_prerequisite {id prerequisite : Nat}
    (required : prerequisite ∈ catalog.prerequisites id) : catalog.Ancestor id prerequisite :=
  Relation.ReflTransGen.single required

theorem descendant_iff_ancestor {id other : Nat} :
    catalog.Descendant id other ↔ catalog.Ancestor other id := by
  have turned : (fun id dependent => dependent ∈ catalog.dependents id) =
      Function.swap fun id prerequisite => prerequisite ∈ catalog.prerequisites id := by
    funext id dependent
    change (dependent ∈ catalog.dependents id) = (id ∈ catalog.prerequisites dependent)
    rw [mem_dependents, mem_prerequisites]
  rw [Descendant, turned, Relation.reflTransGen_swap, Ancestor]

/-- Whether a set has, with every extension, its prerequisites. -/
def ClosedSet (catalog : ExtensionCatalog) (ids : Set Nat) : Prop :=
  ∀ id ∈ ids, ∀ prerequisite ∈ catalog.prerequisites id, prerequisite ∈ ids

theorem ClosedSet.mem_of_ancestor {ids : Set Nat} {id ancestor : Nat}
    (closed : catalog.ClosedSet ids) (member : id ∈ ids) (reached : catalog.Ancestor id ancestor) :
    ancestor ∈ ids := by
  induction reached with
  | refl => exact member
  | tail _ required ih => exact closed _ ih _ required

theorem Accepted.lt_size_of_prerequisite (accepted : catalog.Accepted) {id prerequisite : Nat}
    (required : prerequisite ∈ catalog.prerequisites id) :
    prerequisite < catalog.size ∧ id < catalog.size :=
  accepted.lt_size _ (mem_prerequisites.mp required)

theorem Accepted.lt_size_of_dependent (accepted : catalog.Accepted) {id dependent : Nat}
    (required : dependent ∈ catalog.dependents id) :
    id < catalog.size ∧ dependent < catalog.size :=
  accepted.lt_size _ (mem_dependents.mp required)

/-- What is reached from an extension of an accepted catalog is one too. -/
theorem Accepted.ancestor_lt_size (accepted : catalog.Accepted) {id ancestor : Nat}
    (below : id < catalog.size) (reached : catalog.Ancestor id ancestor) :
    ancestor < catalog.size := by
  induction reached with
  | refl => exact below
  | tail _ required _ => exact (accepted.lt_size_of_prerequisite required).1

/-- A number that is no id has no neighbours. -/
theorem Accepted.prerequisites_of_size_le (accepted : catalog.Accepted) {id : Nat}
    (beyond : catalog.size ≤ id) : catalog.prerequisites id = [] := by
  apply List.eq_nil_iff_forall_not_mem.mpr
  intro prerequisite required
  exact Nat.not_lt.mpr beyond (accepted.lt_size_of_prerequisite required).2

theorem Accepted.dependents_of_size_le (accepted : catalog.Accepted) {id : Nat}
    (beyond : catalog.size ≤ id) : catalog.dependents id = [] := by
  apply List.eq_nil_iff_forall_not_mem.mpr
  intro dependent required
  exact Nat.not_lt.mpr beyond (accepted.lt_size_of_dependent required).1

/-- Nothing else is reached from a number that is no id. -/
theorem Accepted.eq_of_ancestor_of_size_le (accepted : catalog.Accepted) {id ancestor : Nat}
    (beyond : catalog.size ≤ id) (reached : catalog.Ancestor id ancestor) : ancestor = id := by
  induction reached with
  | refl => rfl
  | tail _ required ih =>
      rw [ih, accepted.prerequisites_of_size_le beyond] at required
      cases required

theorem Accepted.lt_size_iff_of_ancestor (accepted : catalog.Accepted) {id ancestor : Nat}
    (reached : catalog.Ancestor id ancestor) : id < catalog.size ↔ ancestor < catalog.size := by
  constructor
  · exact fun below => accepted.ancestor_lt_size below reached
  · intro below
    by_contra beyond
    rw [accepted.eq_of_ancestor_of_size_le (Nat.not_lt.mp beyond) reached] at below
    exact beyond below

end TargetFeatures.ExtensionCatalog
