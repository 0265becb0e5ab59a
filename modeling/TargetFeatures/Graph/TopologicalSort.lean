/-!
# Topological order

A graph is a list of nodes in their preferred order and a list of edges from earlier to later
nodes. `sort` puts the nodes in an order in which every edge points forward; whenever several
nodes could come next, the one that is preferred comes first. The sort counts, for each node, the
edges that still lead to it from nodes without a place; a node is ready when its count is zero.

Nodes may be listed more than once. The last listing then gives the position, and every listing
of a node that is ready from the start is placed.
-/

namespace TargetFeatures.Graph

variable {α : Type} [DecidableEq α]

/-- Why a graph has no topological order. -/
inductive SortError (α : Type) where
  /-- An edge leads to something that is not a node. -/
  | unknownNode (node : α)
  /-- The nodes that were left without a place: those on a cycle or behind one. -/
  | cycle (remaining : List α)
  deriving DecidableEq, Repr

/-- Message of an error, given the texts of the nodes. -/
def SortError.message (show_ : α → String) : SortError α → String
  | .unknownNode node => show_ node
  | .cycle remaining =>
    "Circular dependency detected involving: [" ++ ", ".intercalate (remaining.map show_) ++ "]"

/-- Position of the last listing of a node. -/
def lastPosition (nodes : List α) (node : α) : Nat :=
  nodes.length - 1 - nodes.reverse.idxOf node

/-- Positions in increasing order after one more was added. -/
def insertPosition (position : Nat) : List Nat → List Nat
  | [] => [position]
  | first :: rest =>
    if position ≤ first then position :: first :: rest else first :: insertPosition position rest

/-- Number of edges that lead to a node. -/
def indegree (edges : List (α × α)) (node : α) : Int := edges.countP fun edge => edge.2 = node

/-- The nodes that the edges from a node lead to, one for each edge. -/
def successors (edges : List (α × α)) (node : α) : List α :=
  (edges.filter fun edge => edge.1 = node).map Prod.snd

/-- Counts of open edges after one edge to a node was removed. -/
def decrement (counts : α → Int) (node : α) : α → Int := fun other =>
  if other = node then counts node - 1 else counts other

/-- Removes one edge to each of some nodes; a node whose count becomes zero is ready. -/
def release (nodes : List α) : List α → (α → Int) → List Nat → (α → Int) × List Nat
  | [], counts, ready => (counts, ready)
  | later :: rest, counts, ready =>
    let ready :=
      if counts later = 1 then insertPosition (lastPosition nodes later) ready else ready
    release nodes rest (decrement counts later) ready

theorem length_insertPosition (position : Nat) (ready : List Nat) :
    (insertPosition position ready).length = ready.length + 1 := by
  induction ready with
  | nil => rfl
  | cons first rest ih => by_cases before : position ≤ first <;> simp [insertPosition, before, ih]

/-- Number of edges to nodes that are not ready. -/
def openEdges (edges : List (α × α)) (counts : α → Int) : Nat :=
  edges.countP fun edge => 0 < counts edge.2

theorem decrement_le (counts : α → Int) (node other : α) :
    decrement counts node other ≤ counts other := by
  unfold decrement
  split
  · next same => rw [same]; omega
  · exact Int.le_refl _

theorem openEdges_decrement_le (edges : List (α × α)) (counts : α → Int) (node : α) :
    openEdges edges (decrement counts node) ≤ openEdges edges counts := by
  apply List.countP_mono_left
  intro edge _ positive
  have smaller := decrement_le counts node edge.2
  simp only [decide_eq_true_eq] at positive ⊢
  omega

theorem openEdges_decrement_lt {edges : List (α × α)} {counts : α → Int} {node : α}
    (member : node ∈ edges.map Prod.snd) (one : counts node = 1) :
    openEdges edges (decrement counts node) < openEdges edges counts := by
  induction edges with
  | nil => simp at member
  | cons edge rest ih =>
    have tail := openEdges_decrement_le rest counts node
    unfold openEdges at ih tail ⊢
    rw [List.countP_cons, List.countP_cons]
    by_cases same : edge.2 = node
    · have before : counts edge.2 = 1 := same ▸ one
      have after : decrement counts node edge.2 = 0 := by
        rw [decrement, if_pos same, one]; rfl
      rw [before, after]
      simp only [Int.lt_irrefl, decide_false, Bool.false_eq_true, if_false, Int.zero_lt_one,
        decide_true, if_true]
      omega
    · have memberRest : node ∈ rest.map Prod.snd := by
        simp only [List.map_cons, List.mem_cons] at member
        exact member.resolve_left (Ne.symm same)
      have smaller := ih memberRest
      have unchanged : decrement counts node edge.2 = counts edge.2 := if_neg same
      rw [unchanged]
      omega

/-- Making nodes ready uses up open edges: the two numbers together do not grow. -/
theorem release_measure_le (nodes : List α) (edges : List (α × α)) (laters : List α)
    (counts : α → Int) (ready : List Nat) (known : ∀ later ∈ laters, later ∈ edges.map Prod.snd) :
    (release nodes laters counts ready).2.length +
        openEdges edges (release nodes laters counts ready).1 ≤
      ready.length + openEdges edges counts := by
  induction laters generalizing counts ready with
  | nil => simp [release]
  | cons later rest ih =>
    simp only [release]
    refine Nat.le_trans (ih _ _ fun node member => known node (List.mem_cons_of_mem _ member)) ?_
    by_cases one : counts later = 1
    · have fewer := openEdges_decrement_lt (known later List.mem_cons_self) one
      simp only [one, if_true, length_insertPosition]
      omega
    · have fewer := openEdges_decrement_le edges counts later
      simp only [one, if_false]
      omega

theorem mem_targets_of_mem_successors {edges : List (α × α)} {node later : α}
    (member : later ∈ successors edges node) : later ∈ edges.map Prod.snd := by
  simp only [successors, List.mem_map, List.mem_filter] at member ⊢
  obtain ⟨edge, ⟨inEdges, _⟩, same⟩ := member
  exact ⟨edge, inEdges, same⟩

/-- The nodes in the order in which they are placed, as long as one is ready. Placing a node takes
its position from the ready ones, and every node that becomes ready uses up an open edge. -/
def place (nodes : List α) (edges : List (α × α)) (counts : α → Int) : List Nat → List α
  | [] => []
  | position :: ready =>
    match nodes[position]? with
    | none => place nodes edges counts ready
    | some node =>
      let next := release nodes (successors edges node) counts ready
      node :: place nodes edges next.1 next.2
termination_by ready => ready.length + openEdges edges counts
decreasing_by
  · simp only [List.length_cons]; omega
  · have bound := release_measure_le nodes edges (successors edges node) counts ready
      fun later member => mem_targets_of_mem_successors member
    simp only [List.length_cons]
    omega

/-- Positions of the nodes that are ready from the start, one for each listing, in increasing
order. -/
def initialReady (nodes : List α) (edges : List (α × α)) : List Nat :=
  (nodes.filter fun node => indegree edges node = 0).foldr
    (fun node ready => insertPosition (lastPosition nodes node) ready) []

/-- The nodes in topological order, ties broken by their position. -/
def sort (nodes : List α) (edges : List (α × α)) : Except (SortError α) (List α) :=
  match edges.find? fun edge => !nodes.contains edge.2 with
  | some edge => .error (.unknownNode edge.2)
  | none =>
    let order := place nodes edges (indegree edges) (initialReady nodes edges)
    if order.length = nodes.length then .ok order
    else .error (.cycle (nodes.filter fun node => !order.contains node))

end TargetFeatures.Graph
