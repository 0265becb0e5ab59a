import Mathlib.Data.List.Lex
import TargetFeatures.Proofs.Graph.Placement

/-!
# The preferred order

Many orders can go forward along the edges of a graph. They are compared place by place: the one
that first has a node that is listed earlier comes before the other. The topological sort returns
the order that comes before all others. Its ready positions are in increasing order and are those of
all nodes that an order with the same beginning could go on with, so that none goes on with a node
that is listed earlier (`Placing.eq_or_precedes`).

The first order is the only one of its kind. Which edges there are decides on it, and not how often
or in which order they are listed.
-/

namespace TargetFeatures.Graph

variable {α : Type} [DecidableEq α]

/-- Whether a list has all nodes, and every edge leads from an earlier place to a later one. -/
structure IsOrder (nodes : List α) (edges : List (α × α)) (order : List α) : Prop where
  perm : order.Perm nodes
  forward : ∀ edge ∈ edges, order.idxOf edge.1 < order.idxOf edge.2

/-- Whether one list comes before another one: where they first differ, it has the node that is
listed earlier. -/
def Precedes (nodes : List α) : List α → List α → Prop :=
  List.Lex fun first second => nodes.idxOf first < nodes.idxOf second

theorem Precedes.asymm {nodes first second : List α} (before : Precedes nodes first second) :
    ¬Precedes nodes second first := by
  have : Std.Asymm fun first second => nodes.idxOf first < nodes.idxOf second :=
    ⟨fun _ _ => Nat.lt_asymm⟩
  exact (List.Lex.asymm fun first second => nodes.idxOf first < nodes.idxOf second).asymm _ _ before

theorem IsOrder.forward_edges {nodes order : List α} {edges : List (α × α)}
    (isOrder : IsOrder nodes edges order) : Forward edges order := by
  rintro before node after rfl earlier edge
  have smaller := isOrder.forward (earlier, node) edge
  have bound : (before ++ node :: after).idxOf node ≤ before.length := by
    rw [List.idxOf_append, List.idxOf_cons_self]
    split
    · exact List.idxOf_le_length
    · rw [Nat.zero_add]
  by_contra missing
  have beyond : before.length ≤ (before ++ node :: after).idxOf earlier := by
    rw [List.idxOf_append_of_notMem missing]
    exact Nat.le_add_right _ _
  exact Nat.not_lt.mpr (bound.trans beyond) smaller

theorem IsOrder.of_mem_iff {nodes order : List α} {edges others : List (α × α)}
    (isOrder : IsOrder nodes edges order) (same : ∀ edge, edge ∈ others ↔ edge ∈ edges) :
    IsOrder nodes others order :=
  ⟨isOrder.perm, fun edge member => isOrder.forward edge ((same edge).mp member)⟩

/-! ## The ready positions stay in order -/

theorem pairwise_insertPosition (position : Nat) {ready : List Nat}
    (sorted : ready.Pairwise (· ≤ ·)) : (insertPosition position ready).Pairwise (· ≤ ·) := by
  induction ready with
  | nil => exact List.pairwise_singleton _ _
  | cons first rest ih =>
      rcases List.pairwise_cons.mp sorted with ⟨least, restSorted⟩
      rw [insertPosition]
      split
      · next before =>
          refine List.pairwise_cons.mpr ⟨?_, sorted⟩
          intro other member
          rcases List.mem_cons.mp member with rfl | later
          · exact before
          · exact before.trans (least other later)
      · next after =>
          refine List.pairwise_cons.mpr ⟨?_, ih restSorted⟩
          intro other member
          rcases mem_insertPosition.mp member with rfl | later
          · omega
          · exact least other later

theorem pairwise_release_ready (nodes laters : List α) (counts : α → Int) {ready : List Nat}
    (sorted : ready.Pairwise (· ≤ ·)) :
    (release nodes laters counts ready).2.Pairwise (· ≤ ·) := by
  induction laters generalizing counts ready with
  | nil => exact sorted
  | cons later rest ih =>
      apply ih
      split
      · exact pairwise_insertPosition _ sorted
      · exact sorted

theorem pairwise_initialReady (nodes : List α) (edges : List (α × α)) :
    (initialReady nodes edges).Pairwise (· ≤ ·) := by
  rw [initialReady]
  generalize (nodes.filter fun node => indegree edges node = 0) = starts
  induction starts with
  | nil => exact List.Pairwise.nil
  | cons start rest ih => exact pairwise_insertPosition _ ih

/-! ## The choice at every place -/

section

variable {nodes placed rest : List α} {edges : List (α × α)} {counts : α → Int} {ready : List Nat}
  (nodup : nodes.Nodup)

include nodup

/-- What an order with the same beginning goes on with is ready. -/
theorem Placing.idxOf_mem_ready {node : α} (placing : Placing nodes edges placed counts ready)
    (forward : Forward edges (placed ++ node :: rest))
    (perm : (placed ++ node :: rest).Perm nodes) : nodes.idxOf node ∈ ready := by
  have member : node ∈ nodes := perm.mem_iff.mp (by simp)
  have fresh : node ∉ placed := fun again =>
    List.disjoint_of_nodup_append (perm.nodup_iff.mpr nodup) again List.mem_cons_self
  exact (placing.ready_iff _).mpr ⟨node, List.getElem?_idxOf member, fresh,
    openInto_eq_zero_iff.mpr (forward placed node rest rfl)⟩

/-- From any point of the sort on, an order with the same beginning continues as the sort does or
comes after it. -/
theorem Placing.eq_or_precedes (known : ∀ edge ∈ edges, edge.2 ∈ nodes)
    (placing : Placing nodes edges placed counts ready) (sorted : ready.Pairwise (· ≤ ·))
    (forward : Forward edges (placed ++ rest)) (perm : (placed ++ rest).Perm nodes) :
    rest = place nodes edges counts ready ∨
      Precedes nodes (place nodes edges counts ready) rest := by
  fun_induction place nodes edges counts ready generalizing placed rest with
  | case1 counts =>
      cases rest with
      | nil => exact Or.inl rfl
      | cons node rest =>
          exact absurd (placing.idxOf_mem_ready nodup forward perm) List.not_mem_nil
  | case2 counts position ready missing ih =>
      rcases (placing.ready_iff position).mp List.mem_cons_self with ⟨node, found, _⟩
      rw [missing] at found
      cases found
  | case3 counts position ready node found next =>
      rename_i ih
      rcases (placing.ready_iff position).mp List.mem_cons_self with ⟨first, foundFirst, fresh, _⟩
      rw [found, Option.some.injEq] at foundFirst
      subst first
      rcases List.getElem?_eq_some_iff.mp found with ⟨bound, same⟩
      have place : nodes.idxOf node = position := same ▸ nodup.idxOf_getElem position bound
      rcases List.pairwise_cons.mp sorted with ⟨least, restSorted⟩
      cases rest with
      | nil =>
          rw [List.append_nil] at perm
          exact absurd (perm.mem_iff.mpr (List.mem_of_getElem? found)) fresh
      | cons other rest =>
          by_cases same : other = node
          · subst other
            rw [← List.singleton_append, ← List.append_assoc] at forward perm
            rcases ih (placing.step nodup known found) (pairwise_release_ready _ _ _ restSorted)
              forward perm with rfl | after
            · exact Or.inl rfl
            · exact Or.inr (.cons after)
          · have otherReady := placing.idxOf_mem_ready nodup forward perm
            have otherMem : other ∈ nodes := perm.mem_iff.mp (by simp)
            have different : nodes.idxOf other ≠ position := by
              intro again
              rw [← place, List.idxOf_inj otherMem] at again
              exact same again
            have later := least _ ((List.mem_cons.mp otherReady).resolve_left different)
            exact Or.inr (.rel (by omega))

end

/-! ## The outcome of the sort -/

section

variable {nodes : List α} {edges : List (α × α)} (nodup : nodes.Nodup)
  (within : ∀ edge ∈ edges, edge.1 ∈ nodes ∧ edge.2 ∈ nodes) (acyclic : Acyclic edges)

include nodup within acyclic

theorem exists_sort_eq_first :
    ∃ order, sort nodes edges = .ok order ∧ IsOrder nodes edges order ∧
      ∀ other, IsOrder nodes edges other → other = order ∨ Precedes nodes order other := by
  have known : ∀ edge ∈ edges, edge.2 ∈ nodes := fun edge member => (within edge member).2
  have started : Placing nodes edges [] (indegree edges) (initialReady nodes edges) :=
    Placing.start nodup
  have settled := started.settled nodup known
  rw [List.nil_append] at settled
  have complete := (settled.length_eq_iff_acyclic nodup within).mpr acyclic
  have perm := (settled.nodup.subperm settled.subset).perm_of_length_le (Nat.le_of_eq complete.symm)
  refine ⟨_, (sort_eq known).trans (if_pos complete), ⟨perm, ?_⟩, fun other isOrder => ?_⟩
  · intro edge member
    exact settled.forward.idxOf_lt member (perm.mem_iff.mpr (known edge member))
  · exact started.eq_or_precedes nodup known (pairwise_initialReady nodes edges)
      isOrder.forward_edges isOrder.perm

/-- Without a cycle the sort returns, of all orders in which every edge points forward, the one that
comes before all others. The same edges listed in another order or another number of times give the
same result. -/
theorem sort_returns_first_order :
    ∃ order, sort nodes edges = .ok order ∧ IsOrder nodes edges order ∧
      (∀ other, IsOrder nodes edges other → other = order ∨ Precedes nodes order other) ∧
      ∀ relisted, (∀ edge, edge ∈ relisted ↔ edge ∈ edges) → sort nodes relisted = .ok order := by
  rcases exists_sort_eq_first nodup within acyclic with ⟨order, sorted, isOrder, first⟩
  refine ⟨order, sorted, isOrder, first, fun relisted same => ?_⟩
  have withinRelisted : ∀ edge ∈ relisted, edge.1 ∈ nodes ∧ edge.2 ∈ nodes :=
    fun edge member => within edge ((same edge).mp member)
  have acyclicRelisted : Acyclic relisted :=
    acyclic.of_map id fun edge member => (same edge).mp member
  rcases exists_sort_eq_first nodup withinRelisted acyclicRelisted with
    ⟨again, sortedAgain, isOrderAgain, firstAgain⟩
  rw [sortedAgain]
  rcases first again (isOrderAgain.of_mem_iff fun edge => (same edge).symm) with rfl | after
  · rfl
  · rcases firstAgain order (isOrder.of_mem_iff same) with rfl | before
    · rfl
    · exact absurd before after.asymm

end

theorem sort_returns_first_order_small :
    let nodes := [3, 1, 5, 4, 0, 2]
    let edges := [(0, 3), (0, 3), (1, 2), (1, 5), (4, 5), (0, 4)]
    let relisted := [(4, 5), (0, 4), (1, 5), (1, 2), (0, 3)]
    let order := [1, 0, 3, 4, 5, 2]
    let other := [0, 3, 1, 4, 5, 2]
    nodes.Nodup ∧ (∀ edge ∈ edges, edge.1 ∈ nodes ∧ edge.2 ∈ nodes) ∧ Acyclic edges ∧
      sort nodes edges = .ok order ∧ IsOrder nodes edges order ∧ IsOrder nodes edges other ∧
      (other = order ∨ Precedes nodes order other) ∧ sort nodes relisted = .ok order := by
  intro nodes edges relisted order other
  have nodup : nodes.Nodup := by decide
  have within : ∀ edge ∈ edges, edge.1 ∈ nodes ∧ edge.2 ∈ nodes := by decide
  have acyclic : Acyclic edges := acyclic_of_lt id (by decide)
  have sorted : sort nodes edges = .ok order := by decide +kernel
  have isOther : IsOrder nodes edges other := ⟨by decide, by decide⟩
  rcases sort_returns_first_order nodup within acyclic with ⟨result, found, isOrder, first, anyList⟩
  obtain rfl : order = result := Except.ok.inj (sorted.symm.trans found)
  exact ⟨nodup, within, acyclic, sorted, isOrder, isOther, first other isOther,
    anyList relisted fun edge => by simp [edges, relisted]; tauto⟩

end TargetFeatures.Graph
