import Mathlib.Data.List.Nodup
import Mathlib.Data.List.Permutation
import TargetFeatures.Proofs.Graph.Acyclic

/-!
# What the topological sort places

The sort keeps counts of open edges and a list of ready positions. `Placing` says what these stand
for while some nodes have been placed: a count is the number of edges from nodes without a place,
and the ready positions are those of the nodes without a place whose count is zero. One step of the
sort keeps this. When no position is ready the order is `Settled`: it goes forward along the edges,
and every node outside it waits for another one outside it.

From this, the sort of distinct nodes and edges between them succeeds exactly when the edges have no
cycle, and it never meets an unknown node. It returns all nodes in an order in which every edge
points forward, or it reports the nodes that lie on a cycle or behind one.
-/

namespace TargetFeatures.Graph

variable {α : Type} [DecidableEq α]

/-! ## Positions -/

theorem insertPosition_perm (position : Nat) (ready : List Nat) :
    (insertPosition position ready).Perm (position :: ready) := by
  induction ready with
  | nil => exact List.Perm.refl _
  | cons first rest ih =>
      by_cases before : position ≤ first
      · simp [insertPosition, before]
      · simp only [insertPosition, before, if_false]
        exact (ih.cons first).trans (List.Perm.swap position first rest)

theorem mem_insertPosition {position other : Nat} {ready : List Nat} :
    other ∈ insertPosition position ready ↔ other = position ∨ other ∈ ready := by
  rw [(insertPosition_perm position ready).mem_iff, List.mem_cons]

theorem nodup_insertPosition {position : Nat} {ready : List Nat} (fresh : position ∉ ready)
    (nodup : ready.Nodup) : (insertPosition position ready).Nodup :=
  (insertPosition_perm position ready).nodup_iff.mpr (List.nodup_cons.mpr ⟨fresh, nodup⟩)

theorem lastPosition_of_getElem? {nodes : List α} (nodup : nodes.Nodup) {position : Nat} {node : α}
    (found : nodes[position]? = some node) : lastPosition nodes node = position := by
  rcases List.getElem?_eq_some_iff.mp found with ⟨bound, same⟩
  have mirrored : nodes.length - 1 - position < nodes.reverse.length := by
    rw [List.length_reverse]
    omega
  have first := (List.nodup_reverse.mpr nodup).idxOf_getElem _ mirrored
  have inside : nodes.reverse[nodes.length - 1 - position] = node := by
    rw [List.getElem_reverse, ← same]
    congr 1
    omega
  rw [inside] at first
  rw [lastPosition, first]
  omega

theorem getElem?_lastPosition {nodes : List α} (nodup : nodes.Nodup) {node : α}
    (member : node ∈ nodes) : nodes[lastPosition nodes node]? = some node := by
  rcases List.mem_iff_getElem?.mp member with ⟨position, found⟩
  rw [lastPosition_of_getElem? nodup found]
  exact found

/-! ## Open edges -/

/-- Number of edges to a node from nodes outside a list. -/
def openInto (edges : List (α × α)) (placed : List α) (node : α) : Nat :=
  edges.countP fun edge => edge.2 = node ∧ edge.1 ∉ placed

theorem indegree_eq_openInto (edges : List (α × α)) (node : α) :
    indegree edges node = openInto edges [] node := by
  simp [indegree, openInto]

theorem openInto_eq_zero_iff {edges : List (α × α)} {placed : List α} {node : α} :
    openInto edges placed node = 0 ↔ ∀ earlier, (earlier, node) ∈ edges → earlier ∈ placed := by
  simp only [openInto, List.countP_eq_zero, decide_eq_true_eq, not_and, not_not]
  constructor
  · intro closed earlier edge
    exact closed (earlier, node) edge rfl
  · rintro closed ⟨earlier, later⟩ edge same
    exact closed earlier (same ▸ edge)

theorem openInto_append_singleton {edges : List (α × α)} {placed : List α} {node : α}
    (fresh : node ∉ placed) (other : α) :
    openInto edges placed other =
      openInto edges (placed ++ [node]) other + (successors edges node).count other := by
  induction edges with
  | nil => rfl
  | cons edge rest ih =>
      simp only [openInto, successors, List.countP_cons, List.filter_cons] at ih ⊢
      rw [ih]
      by_cases fromNode : edge.1 = node
      · by_cases toOther : edge.2 = other
        · simp [fromNode, toOther, fresh]
          omega
        · simp [fromNode, toOther]
      · by_cases toOther : edge.2 = other
        · simp [fromNode, toOther]
          omega
        · simp [fromNode, toOther]

/-! ## Removing the edges from a node -/

theorem decrement_self (counts : α → Int) (node : α) :
    decrement counts node node = counts node - 1 := if_pos rfl

theorem decrement_of_ne (counts : α → Int) {node other : α} (different : other ≠ node) :
    decrement counts node other = counts other := if_neg different

theorem release_counts (nodes laters : List α) (counts : α → Int) (ready : List Nat) (other : α) :
    (release nodes laters counts ready).1 other = counts other - laters.count other := by
  induction laters generalizing counts ready with
  | nil => simp [release]
  | cons later rest ih =>
      rw [release, ih]
      by_cases same : other = later
      · subst same
        rw [decrement_self, List.count_cons_self]
        omega
      · rw [decrement_of_ne counts same, List.count_cons_of_ne (Ne.symm same)]

/-- A node becomes ready when its count is positive and there are enough edges to use it up. -/
theorem mem_release_ready {nodes laters : List α} {counts : α → Int} {ready : List Nat}
    {position : Nat} :
    position ∈ (release nodes laters counts ready).2 ↔
      position ∈ ready ∨ ∃ later ∈ laters, 1 ≤ counts later ∧ counts later ≤ laters.count later ∧
        lastPosition nodes later = position := by
  induction laters generalizing counts ready with
  | nil => simp [release]
  | cons later rest ih =>
      rw [release, ih]
      constructor
      · rintro (now | ⟨other, otherMem, positive, enough, same⟩)
        · by_cases one : counts later = 1
          · rw [if_pos one, mem_insertPosition] at now
            rcases now with rfl | old
            · refine Or.inr ⟨later, List.mem_cons_self, by omega, ?_, rfl⟩
              rw [List.count_cons_self]
              omega
            · exact Or.inl old
          · rw [if_neg one] at now
            exact Or.inl now
        · refine Or.inr ⟨other, List.mem_cons_of_mem _ otherMem, ?_⟩
          by_cases again : other = later
          · subst again
            rw [decrement_self] at positive enough
            rw [List.count_cons_self]
            exact ⟨by omega, by omega, same⟩
          · rw [decrement_of_ne counts again] at positive enough
            rw [List.count_cons_of_ne (Ne.symm again)]
            exact ⟨positive, enough, same⟩
      · rintro (old | ⟨other, otherMem, positive, enough, same⟩)
        · left
          split
          · exact mem_insertPosition.mpr (Or.inr old)
          · exact old
        · by_cases again : other = later
          · subst again
            rw [List.count_cons_self] at enough
            by_cases one : counts other = 1
            · left
              rw [if_pos one]
              exact mem_insertPosition.mpr (Or.inl same.symm)
            · right
              have more : 0 < rest.count other := by omega
              refine ⟨other, List.count_pos_iff.mp more, ?_⟩
              rw [decrement_self]
              exact ⟨by omega, by omega, same⟩
          · right
            refine ⟨other, (List.mem_cons.mp otherMem).resolve_left again, ?_⟩
            rw [List.count_cons_of_ne (Ne.symm again)] at enough
            rw [decrement_of_ne counts again]
            exact ⟨positive, enough, same⟩

/-- No position becomes ready twice. -/
theorem nodup_release_ready {nodes laters : List α} {counts : α → Int} {ready : List Nat}
    (nodup : nodes.Nodup) (known : ∀ later ∈ laters, later ∈ nodes) (readyNodup : ready.Nodup)
    (waiting : ∀ later ∈ laters, 1 ≤ counts later → lastPosition nodes later ∉ ready) :
    (release nodes laters counts ready).2.Nodup := by
  induction laters generalizing counts ready with
  | nil => exact readyNodup
  | cons later rest ih =>
      have knownRest : ∀ other ∈ rest, other ∈ nodes :=
        fun other otherMem => known other (List.mem_cons_of_mem _ otherMem)
      rw [release]
      apply ih knownRest
      · split
        · next one =>
            exact nodup_insertPosition (waiting later List.mem_cons_self (by omega)) readyNodup
        · exact readyNodup
      · intro other otherMem positive
        by_cases again : other = later
        · subst again
          rw [decrement_self] at positive
          rw [if_neg (by omega)]
          exact waiting other List.mem_cons_self (by omega)
        · rw [decrement_of_ne counts again] at positive
          have old := waiting other (List.mem_cons_of_mem _ otherMem) positive
          have apart : lastPosition nodes other ≠ lastPosition nodes later := by
            intro same
            have foundOther := getElem?_lastPosition nodup (knownRest other otherMem)
            have foundLater := getElem?_lastPosition nodup (known later List.mem_cons_self)
            rw [same, foundLater] at foundOther
            exact again (Option.some.inj foundOther).symm
          split
          · rw [mem_insertPosition, not_or]
            exact ⟨apart, old⟩
          · exact old

/-! ## Placing the nodes -/

/-- What the counts and the ready positions stand for while some nodes have been placed. -/
structure Placing (nodes : List α) (edges : List (α × α)) (placed : List α) (counts : α → Int)
    (ready : List Nat) : Prop where
  counted : ∀ node, counts node = openInto edges placed node
  ready_iff : ∀ position, position ∈ ready ↔
    ∃ node, nodes[position]? = some node ∧ node ∉ placed ∧ openInto edges placed node = 0
  ready_nodup : ready.Nodup
  placed_nodup : placed.Nodup
  placed_subset : placed ⊆ nodes
  forward : Forward edges placed

/-- An order at which the sort ends: what is outside waits for something outside. -/
structure Settled (nodes : List α) (edges : List (α × α)) (order : List α) : Prop where
  nodup : order.Nodup
  subset : order ⊆ nodes
  forward : Forward edges order
  waits : ∀ node ∈ nodes, node ∉ order → ∃ earlier, earlier ∉ order ∧ (earlier, node) ∈ edges

theorem initialReady_perm (nodes : List α) (edges : List (α × α)) :
    (initialReady nodes edges).Perm
      ((nodes.filter fun node => indegree edges node = 0).map (lastPosition nodes)) := by
  rw [initialReady]
  generalize (nodes.filter fun node => indegree edges node = 0) = starts
  induction starts with
  | nil => exact List.Perm.refl _
  | cons start rest ih => exact (insertPosition_perm _ _).trans (ih.cons _)

section

variable {nodes : List α} {edges : List (α × α)} (nodup : nodes.Nodup)

include nodup

theorem lastPosition_inj {first second : α} (firstMem : first ∈ nodes) (secondMem : second ∈ nodes)
    (same : lastPosition nodes first = lastPosition nodes second) : first = second := by
  have found := getElem?_lastPosition nodup firstMem
  rw [same, getElem?_lastPosition nodup secondMem] at found
  exact (Option.some.inj found).symm

/-- At the start nothing is placed, and the nodes without edges to them are ready. -/
theorem Placing.start : Placing nodes edges [] (indegree edges) (initialReady nodes edges) where
  counted := indegree_eq_openInto edges
  ready_iff := by
    intro position
    rw [(initialReady_perm nodes edges).mem_iff, List.mem_map]
    constructor
    · rintro ⟨node, member, rfl⟩
      rcases List.mem_filter.mp member with ⟨inNodes, zero⟩
      refine ⟨node, getElem?_lastPosition nodup inNodes, List.not_mem_nil, ?_⟩
      have none := of_decide_eq_true zero
      rw [indegree_eq_openInto] at none
      omega
    · rintro ⟨node, found, _, zero⟩
      refine ⟨node, List.mem_filter.mpr ⟨List.mem_of_getElem? found, ?_⟩,
        lastPosition_of_getElem? nodup found⟩
      rw [indegree_eq_openInto, zero]
      rfl
  ready_nodup := by
    rw [(initialReady_perm nodes edges).nodup_iff]
    apply List.Nodup.map_on _ (nodup.filter _)
    intro first firstMem second secondMem same
    exact lastPosition_inj nodup (List.mem_filter.mp firstMem).1
      (List.mem_filter.mp secondMem).1 same
  placed_nodup := List.nodup_nil
  placed_subset := List.nil_subset nodes
  forward := forward_nil edges

variable (known : ∀ edge ∈ edges, edge.2 ∈ nodes) {placed : List α} {counts : α → Int}

include known

/-- Placing the node at the first ready position and removing its edges keeps the meaning of the
counts and of the ready positions. -/
theorem Placing.step {position : Nat} {ready : List Nat} {node : α}
    (placing : Placing nodes edges placed counts (position :: ready))
    (found : nodes[position]? = some node) :
    Placing nodes edges (placed ++ [node])
      (release nodes (successors edges node) counts ready).1
      (release nodes (successors edges node) counts ready).2 := by
  rcases (placing.ready_iff position).mp List.mem_cons_self with ⟨first, foundFirst, fresh, closed⟩
  rw [found, Option.some.injEq] at foundFirst
  subst first
  have predecessors := openInto_eq_zero_iff.mp closed
  have split : ∀ other, openInto edges placed other =
      openInto edges (placed ++ [node]) other + (successors edges node).count other :=
    openInto_append_singleton fresh
  rcases List.nodup_cons.mp placing.ready_nodup with ⟨notAgain, readyNodup⟩
  have knownLater : ∀ later ∈ successors edges node, later ∈ nodes := by
    intro later member
    rcases List.mem_map.mp (mem_targets_of_mem_successors member) with ⟨edge, inEdges, rfl⟩
    exact known edge inEdges
  -- A successor cannot be placed: its predecessor `node` would be.
  have unplaced : ∀ later ∈ successors edges node, later ∉ placed := by
    intro later member inPlaced
    rcases List.mem_map.mp member with ⟨edge, inEdges, rfl⟩
    rcases List.mem_filter.mp inEdges with ⟨edgeMem, fromNode⟩
    have source : edge.1 = node := of_decide_eq_true fromNode
    exact fresh (placing.forward.mem_of_edge (source ▸ edgeMem) inPlaced)
  refine ⟨?_, ?_, ?_, ?_, ?_, ?_⟩
  · intro other
    rw [release_counts, placing.counted other, split other]
    omega
  · intro other
    rw [mem_release_ready]
    constructor
    · rintro (old | ⟨later, member, positive, enough, rfl⟩)
      · rcases (placing.ready_iff other).mp (List.mem_cons_of_mem _ old) with
          ⟨waiting, foundWaiting, notPlaced, zero⟩
        have different : waiting ≠ node := by
          rintro rfl
          have here := lastPosition_of_getElem? nodup found
          have there := lastPosition_of_getElem? nodup foundWaiting
          exact notAgain (here ▸ there ▸ old)
        refine ⟨waiting, foundWaiting, by simp [notPlaced, different], ?_⟩
        have total := split waiting
        omega
      · rw [placing.counted later] at positive enough
        have different : later ≠ node := by
          rintro rfl
          omega
        refine ⟨later, getElem?_lastPosition nodup (knownLater later member),
          by simp [unplaced later member, different], ?_⟩
        have total := split later
        omega
    · rintro ⟨waiting, foundWaiting, notPlaced, zero⟩
      simp only [List.mem_append, List.mem_singleton, not_or] at notPlaced
      have total := split waiting
      by_cases before : openInto edges placed waiting = 0
      · left
        have inReady := (placing.ready_iff other).mpr ⟨waiting, foundWaiting, notPlaced.1, before⟩
        rcases List.mem_cons.mp inReady with rfl | old
        · rw [found, Option.some.injEq] at foundWaiting
          exact absurd foundWaiting.symm notPlaced.2
        · exact old
      · right
        have some : 0 < (successors edges node).count waiting := by omega
        refine ⟨waiting, List.count_pos_iff.mp some, ?_, ?_,
          lastPosition_of_getElem? nodup foundWaiting⟩
        · rw [placing.counted waiting]
          omega
        · rw [placing.counted waiting]
          omega
  · apply nodup_release_ready nodup knownLater readyNodup
    intro later member positive inReady
    rcases (placing.ready_iff _).mp (List.mem_cons_of_mem _ inReady) with
      ⟨waiting, foundWaiting, _, zero⟩
    rw [getElem?_lastPosition nodup (knownLater later member), Option.some.injEq] at foundWaiting
    subst waiting
    rw [placing.counted later, zero] at positive
    omega
  · exact List.nodup_append.mpr ⟨placing.placed_nodup, List.nodup_singleton node, by
      rintro other otherMem single singleMem rfl
      exact fresh (List.mem_singleton.mp singleMem ▸ otherMem)⟩
  · intro other otherMem
    rcases List.mem_append.mp otherMem with old | new
    · exact placing.placed_subset old
    · exact List.mem_singleton.mp new ▸ List.mem_of_getElem? found
  · exact placing.forward.append_singleton predecessors

/-- The run from any point of the sort ends settled. -/
theorem Placing.settled {ready : List Nat} (placing : Placing nodes edges placed counts ready) :
    Settled nodes edges (placed ++ place nodes edges counts ready) := by
  fun_induction place nodes edges counts ready generalizing placed with
  | case1 counts =>
      rw [List.append_nil]
      refine ⟨placing.placed_nodup, placing.placed_subset, placing.forward, ?_⟩
      intro node member fresh
      have waiting : openInto edges placed node ≠ 0 := by
        intro zero
        rcases List.mem_iff_getElem?.mp member with ⟨position, found⟩
        exact List.not_mem_nil ((placing.ready_iff position).mpr ⟨node, found, fresh, zero⟩)
      rw [Ne, openInto_eq_zero_iff] at waiting
      push Not at waiting
      rcases waiting with ⟨earlier, edge, outside⟩
      exact ⟨earlier, outside, edge⟩
  | case2 counts position ready missing ih =>
      rcases (placing.ready_iff position).mp List.mem_cons_self with ⟨node, found, _⟩
      rw [missing] at found
      cases found
  | case3 counts position ready node found next =>
      rename_i ih
      have following := ih (placing.step nodup known found)
      rwa [List.append_assoc, List.singleton_append] at following

end

/-! ## The outcome of the sort -/

section

variable {nodes : List α} {edges : List (α × α)}

/-- What a settled order lacks are the nodes of cycles and those behind them: following the
predecessors that a missing node waits for ends in a cycle, and nothing behind a cycle fits into an
order that goes forward. -/
theorem Settled.not_mem_iff_behindCycle {order : List α} (settled : Settled nodes edges order)
    (within : ∀ edge ∈ edges, edge.1 ∈ nodes ∧ edge.2 ∈ nodes) {node : α} (member : node ∈ nodes) :
    node ∉ order ↔ BehindCycle edges node := by
  constructor
  · intro outside
    have predecessor : ∀ node ∈ nodes.filter (fun node => node ∉ order),
        ∃ earlier ∈ nodes.filter (fun node => node ∉ order), (earlier, node) ∈ edges := by
      intro node member
      rcases List.mem_filter.mp member with ⟨inNodes, outside⟩
      rcases settled.waits node inNodes (of_decide_eq_true outside) with
        ⟨earlier, earlierOutside, edge⟩
      exact ⟨earlier, List.mem_filter.mpr ⟨(within _ edge).1, decide_eq_true earlierOutside⟩, edge⟩
    have left : node ∈ nodes.filter (fun node => node ∉ order) :=
      List.mem_filter.mpr ⟨member, decide_eq_true outside⟩
    exact behindCycle_of_predecessor predecessor left
  · rintro ⟨origin, cycle, behind⟩ listed
    have originListed : origin ∈ order := by
      rcases behind with rfl | path
      · exact listed
      · exact settled.forward.mem_of_reaches path listed
    exact settled.forward.not_reaches_self originListed cycle

/-- A settled order that has all nodes shows that there is no cycle, and one that lacks some shows
that there is one. -/
theorem Settled.length_eq_iff_acyclic {order : List α} (settled : Settled nodes edges order)
    (nodup : nodes.Nodup) (within : ∀ edge ∈ edges, edge.1 ∈ nodes ∧ edge.2 ∈ nodes) :
    order.length = nodes.length ↔ Acyclic edges := by
  have part : order.Subperm nodes := settled.nodup.subperm settled.subset
  constructor
  · intro complete node cycle
    have whole := part.perm_of_length_le (Nat.le_of_eq complete.symm)
    rcases Relation.TransGen.tail'_iff.mp cycle with ⟨earlier, _, last⟩
    have member := (within (earlier, node) last).2
    have missing := (settled.not_mem_iff_behindCycle within member).mpr ⟨node, cycle, Or.inl rfl⟩
    exact missing (whole.mem_iff.mpr member)
  · intro acyclic
    have complete : nodes ⊆ order := by
      intro node member
      by_contra missing
      rcases (settled.not_mem_iff_behindCycle within member).mp missing with ⟨origin, cycle, _⟩
      exact acyclic origin cycle
    exact Nat.le_antisymm part.length_le (nodup.subperm complete).length_le

theorem sort_eq (known : ∀ edge ∈ edges, edge.2 ∈ nodes) :
    sort nodes edges =
      let order := place nodes edges (indegree edges) (initialReady nodes edges)
      if order.length = nodes.length then .ok order
      else .error (.cycle (nodes.filter fun node => !order.contains node)) := by
  have noneUnknown : (edges.find? fun edge => !nodes.contains edge.2) = none := by
    rw [List.find?_eq_none]
    intro edge member
    simp [known edge member]
  rw [sort, noneUnknown]

variable (nodup : nodes.Nodup) (within : ∀ edge ∈ edges, edge.1 ∈ nodes ∧ edge.2 ∈ nodes)

include nodup within

/-- The sort runs to a settled order and says whether it is complete. -/
theorem exists_settled_sort_eq :
    ∃ order, Settled nodes edges order ∧
      sort nodes edges = if order.length = nodes.length then .ok order
        else .error (.cycle (nodes.filter fun node => !order.contains node)) := by
  have known : ∀ edge ∈ edges, edge.2 ∈ nodes := fun edge member => (within edge member).2
  have started : Placing nodes edges [] (indegree edges) (initialReady nodes edges) :=
    Placing.start nodup
  exact ⟨_, started.settled nodup known, sort_eq known⟩

/-- The sort succeeds exactly on acyclic graphs. -/
theorem exists_sort_eq_ok_iff : (∃ order, sort nodes edges = .ok order) ↔ Acyclic edges := by
  rcases exists_settled_sort_eq nodup within with ⟨order, settled, outcome⟩
  rw [← settled.length_eq_iff_acyclic nodup within, outcome]
  by_cases complete : order.length = nodes.length
  · simp [complete]
  · simp [complete]

/-- When the sort fails, it reports the nodes of cycles and those behind them, and never an unknown
node. -/
theorem eq_cycle_of_sort_eq_error {error : SortError α} (failed : sort nodes edges = .error error) :
    ∃ remaining, error = .cycle remaining ∧ remaining.Sublist nodes ∧
      ∀ node, node ∈ remaining ↔ node ∈ nodes ∧ BehindCycle edges node := by
  rcases exists_settled_sort_eq nodup within with ⟨order, settled, outcome⟩
  rw [outcome] at failed
  split at failed
  · cases failed
  · injection failed with same
    refine ⟨_, same.symm, List.filter_sublist, fun node => ?_⟩
    rw [List.mem_filter]
    refine and_congr_right fun member => ?_
    rw [← settled.not_mem_iff_behindCycle within member]
    simp

/-- Without a cycle the sort returns all nodes, each once, and every edge leads from an earlier
place to a later one. With one it fails and reports, in their preferred order, the nodes that lie on
a cycle or are reached from one. -/
theorem sort_orders_or_reports_cycles :
    (Acyclic edges → ∃ order, sort nodes edges = .ok order ∧ order.Perm nodes ∧
      ∀ edge ∈ edges, order.idxOf edge.1 < order.idxOf edge.2) ∧
    (¬Acyclic edges → ∃ remaining, sort nodes edges = .error (.cycle remaining) ∧
      remaining.Sublist nodes ∧
      ∀ node, node ∈ remaining ↔ node ∈ nodes ∧ BehindCycle edges node) := by
  rcases exists_settled_sort_eq nodup within with ⟨order, settled, outcome⟩
  have complete := settled.length_eq_iff_acyclic nodup within
  constructor
  · intro acyclic
    have full := complete.mpr acyclic
    have whole : order.Perm nodes :=
      (settled.nodup.subperm settled.subset).perm_of_length_le (Nat.le_of_eq full.symm)
    refine ⟨order, ?_, whole, ?_⟩
    · rw [outcome, if_pos full]
    · intro edge member
      exact settled.forward.idxOf_lt member (whole.mem_iff.mpr (within edge member).2)
  · intro cyclic
    refine ⟨nodes.filter fun node => !order.contains node, ?_, List.filter_sublist, ?_⟩
    · rw [outcome, if_neg (mt complete.mp cyclic)]
    · intro node
      rw [List.mem_filter]
      apply and_congr_right
      intro member
      rw [← settled.not_mem_iff_behindCycle within member]
      simp

end

theorem sort_orders_or_reports_cycles_small :
    let nodes := [3, 1, 5, 4, 0, 2]
    let edges := [(0, 3), (0, 3), (1, 2), (2, 1), (5, 1), (4, 4), (4, 0)]
    let upward := [(0, 3), (0, 3), (1, 2), (1, 5), (4, 5), (0, 4)]
    nodes.Nodup ∧ (∀ edge ∈ edges, edge.1 ∈ nodes ∧ edge.2 ∈ nodes) ∧
    (∀ edge ∈ upward, edge.1 ∈ nodes ∧ edge.2 ∈ nodes) ∧ ¬Acyclic edges ∧ Acyclic upward ∧
    (∃ remaining, sort nodes edges = .error (.cycle remaining) ∧ remaining.Sublist nodes ∧
      ∀ node, node ∈ remaining ↔ node ∈ nodes ∧ BehindCycle edges node) ∧
    (∃ order, sort nodes upward = .ok order ∧ order.Perm nodes ∧
      ∀ edge ∈ upward, order.idxOf edge.1 < order.idxOf edge.2) := by
  intro nodes edges upward
  have nodup : nodes.Nodup := by decide
  have within : ∀ edge ∈ edges, edge.1 ∈ nodes ∧ edge.2 ∈ nodes := by decide
  have withinUpward : ∀ edge ∈ upward, edge.1 ∈ nodes ∧ edge.2 ∈ nodes := by decide
  have loop : (4, 4) ∈ edges := by decide
  have cyclic : ¬Acyclic edges := fun acyclic => acyclic 4 (Relation.TransGen.single loop)
  have acyclic : Acyclic upward := acyclic_of_lt id (by decide)
  exact ⟨nodup, within, withinUpward, cyclic, acyclic,
    (sort_orders_or_reports_cycles nodup within).2 cyclic,
    (sort_orders_or_reports_cycles nodup withinUpward).1 acyclic⟩

end TargetFeatures.Graph
