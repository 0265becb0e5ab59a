import Mathlib.Data.Set.Finite.Basic
import Mathlib.Logic.Relation
import Mathlib.Order.WellFounded
import TargetFeatures.Graph.TopologicalSort

/-!
# Acyclic graphs

What it means for a list of edges to have a cycle, and the two ways in which the topological sort
meets one. An order in which every node comes after its predecessors shows that there is none among
its nodes; a nonempty set of nodes in which every node has a predecessor of its own shows that there
is one. A map of the nodes that keeps the edges carries cycles along.
-/

namespace TargetFeatures

/-- A place in a list with one more entry is the end or a place in the list before. -/
theorem append_singleton_eq_iff {α : Type} {list before after : List α} {last entry : α} :
    list ++ [last] = before ++ entry :: after ↔
      (after = [] ∧ before = list ∧ entry = last) ∨
        ∃ rest, after = rest ++ [last] ∧ list = before ++ entry :: rest := by
  constructor
  · intro split
    rcases List.eq_nil_or_concat' after with rfl | ⟨rest, final, rfl⟩
    · rcases List.append_inj' split rfl with ⟨rfl, same⟩
      simp only [List.cons.injEq, and_true] at same
      exact Or.inl ⟨rfl, rfl, same.symm⟩
    · have shorter : list ++ [last] = (before ++ entry :: rest) ++ [final] := by simpa using split
      rcases List.append_inj' shorter rfl with ⟨rfl, same⟩
      simp only [List.cons.injEq, and_true] at same
      exact Or.inr ⟨rest, by rw [same], rfl⟩
  · rintro (⟨rfl, rfl, rfl⟩ | ⟨rest, rfl, rfl⟩)
    · rfl
    · simp

end TargetFeatures

namespace TargetFeatures.Graph

variable {α β : Type}

/-- Whether a node is reached from another one along one or more edges. -/
def Reaches (edges : List (α × α)) : α → α → Prop :=
  Relation.TransGen fun earlier later => (earlier, later) ∈ edges

/-- Whether no node is reached from itself. -/
def Acyclic (edges : List (α × α)) : Prop := ∀ node, ¬Reaches edges node node

/-- Whether a node lies on a cycle or is reached from one. -/
def BehindCycle (edges : List (α × α)) (node : α) : Prop :=
  ∃ origin, Reaches edges origin origin ∧ (origin = node ∨ Reaches edges origin node)

/-- Whether every node of a list comes after all nodes with an edge to it. -/
def Forward (edges : List (α × α)) (order : List α) : Prop :=
  ∀ before node after, order = before ++ node :: after →
    ∀ earlier, (earlier, node) ∈ edges → earlier ∈ before

theorem forward_nil (edges : List (α × α)) : Forward edges [] := by
  intro before node after split
  simp at split

theorem Forward.append_singleton {edges : List (α × α)} {order : List α} {node : α}
    (forward : Forward edges order)
    (listed : ∀ earlier, (earlier, node) ∈ edges → earlier ∈ order) :
    Forward edges (order ++ [node]) := by
  intro before other after split earlier edge
  rcases append_singleton_eq_iff.mp split with ⟨_, rfl, rfl⟩ | ⟨rest, _, rfl⟩
  · exact listed earlier edge
  · exact forward before other rest rfl earlier edge

/-- The predecessors of a listed node are listed. -/
theorem Forward.mem_of_edge {edges : List (α × α)} {order : List α} {earlier later : α}
    (forward : Forward edges order) (edge : (earlier, later) ∈ edges) (listed : later ∈ order) :
    earlier ∈ order := by
  rcases List.append_of_mem listed with ⟨before, after, rfl⟩
  exact List.mem_append_left _ (forward before later after rfl earlier edge)

/-- Whatever reaches a listed node is listed. -/
theorem Forward.mem_of_reaches {edges : List (α × α)} {order : List α} {first last : α}
    (forward : Forward edges order) (path : Reaches edges first last) (listed : last ∈ order) :
    first ∈ order := by
  induction path with
  | single edge => exact forward.mem_of_edge edge listed
  | tail _ edge ih => exact ih (forward.mem_of_edge edge listed)

/-- The first places of the nodes increase along every edge to a listed node. -/
theorem Forward.idxOf_lt [DecidableEq α] {edges : List (α × α)} {order : List α}
    {earlier later : α} (forward : Forward edges order) (edge : (earlier, later) ∈ edges)
    (listed : later ∈ order) : order.idxOf earlier < order.idxOf later := by
  rcases List.eq_append_cons_of_mem listed with ⟨before, after, rfl, fresh⟩
  have earlierListed := forward before later after rfl earlier edge
  rw [List.idxOf_append_of_mem earlierListed, List.idxOf_append_of_notMem fresh]
  have bound := List.idxOf_lt_length_of_mem earlierListed
  omega

/-- A listed node is not reached from itself. -/
theorem Forward.not_reaches_self [DecidableEq α] {edges : List (α × α)} {order : List α} {node : α}
    (forward : Forward edges order) (listed : node ∈ order) : ¬Reaches edges node node := by
  have alongPath : ∀ {first last : α}, Reaches edges first last → last ∈ order →
      order.idxOf first < order.idxOf last := by
    intro first last path lastListed
    induction path with
    | single edge => exact forward.idxOf_lt edge lastListed
    | tail _ edge ih =>
        exact (ih (forward.mem_of_edge edge lastListed)).trans (forward.idxOf_lt edge lastListed)
  intro path
  exact Nat.lt_irrefl _ (alongPath path listed)

/-- When every node of a list has a predecessor in the list, every one of them lies on a cycle or is
reached from one. -/
theorem behindCycle_of_predecessor {edges : List (α × α)} {left : List α}
    (predecessor : ∀ node ∈ left, ∃ earlier ∈ left, (earlier, node) ∈ edges) {node : α}
    (member : node ∈ left) : BehindCycle edges node := by
  classical
  by_contra noCycle
  let behind : Set α :=
    {origin | origin ∈ left ∧ (origin = node ∨ Reaches edges origin node)}
  have finite : behind.Finite := (List.finite_toSet left).subset fun _ origin => origin.1
  have : Finite behind := finite
  let reaches : behind → behind → Prop := fun first last => Reaches edges first.1 last.1
  have : IsTrans behind reaches := ⟨fun _ _ _ first second => Relation.TransGen.trans first second⟩
  have : Std.Irrefl reaches :=
    ⟨fun origin cycle => noCycle ⟨origin.1, cycle, origin.2.2⟩⟩
  have founded : WellFounded reaches := Finite.wellFounded_of_trans_of_irrefl reaches
  rcases founded.has_min Set.univ ⟨⟨node, member, Or.inl rfl⟩, trivial⟩ with ⟨least, _, minimal⟩
  -- A minimal node still has a predecessor, which is behind the same node.
  rcases predecessor least.1 least.2.1 with ⟨earlier, earlierMem, edge⟩
  have reachesNode : Reaches edges earlier node := by
    rcases least.2.2 with same | path
    · exact same ▸ Relation.TransGen.single edge
    · exact Relation.TransGen.head edge path
  exact minimal ⟨earlier, earlierMem, Or.inr reachesNode⟩ trivial (Relation.TransGen.single edge)

/-- When a map of the nodes sends edges to edges, a cycle becomes a cycle. -/
theorem Acyclic.of_map {edges : List (α × α)} {others : List (β × β)} (image : α → β)
    (maps : ∀ edge ∈ edges, (image edge.1, image edge.2) ∈ others) (acyclic : Acyclic others) :
    Acyclic edges := by
  intro node path
  exact acyclic (image node)
    (Relation.TransGen.lift image (fun earlier later edge => maps (earlier, later) edge) _ _ path)

/-- A graph has no cycle when a number that the nodes have increases along every edge. -/
theorem acyclic_of_lt {edges : List (α × α)} (rank : α → Nat)
    (increases : ∀ edge ∈ edges, rank edge.1 < rank edge.2) : Acyclic edges := by
  have alongPath : ∀ {first last : α}, Reaches edges first last → rank first < rank last := by
    intro first last path
    induction path with
    | single edge => exact increases _ edge
    | tail _ edge ih => exact ih.trans (increases _ edge)
  exact fun node path => Nat.lt_irrefl _ (alongPath path)

end TargetFeatures.Graph
