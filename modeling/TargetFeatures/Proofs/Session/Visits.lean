import TargetFeatures.Proofs.Session.ForeignNumbers

/-!
# How a decision spreads

A decision about an extension that changes it leads to decisions about its neighbours, each of which
is only made while the neighbour still has to change. `Direction.Runs` describes these calls: which
extensions they change, in which order, and how many calls there are. No list of pending extensions
is kept here, so that a call is complete when it returns; decisions keep such a list, and
`takes_enableAll` and `takes_disableAll` say that this comes to the same.

Every call but the first finds its extension unchanged and changes it. Hence an extension is changed
once, and its message is logged once, however many ways lead to it (`Runs.visits`). Over a whole
session the messages about one extension therefore alternate.
-/

namespace TargetFeatures.Session

open State

/-! ## Directions -/

/-- A way in which decisions spread: enabling leads to what an extension requires, and disabling to
what requires it. -/
inductive Direction where
  | enabling
  | disabling
  deriving DecidableEq, Repr

namespace Direction

variable {direction : Direction} {state : State} {id other : Nat}

/-- Whether decisions of a direction leave extensions enabled. -/
def target : Direction → Bool
  | enabling => true
  | disabling => false

/-- Whether an extension is as decisions of a direction leave it. -/
def IsSettled (direction : Direction) (state : State) (id : Nat) : Prop :=
  state.enabled.testBit id = direction.target

/-- What a decision changes about its extension, if it has to change. -/
def settle : Direction → State → Nat → State
  | enabling => switchOn
  | disabling => switchOff

/-- The extensions that a decision leads to. -/
def neighbours (catalog : ExtensionCatalog) : Direction → Nat → List Nat
  | enabling => catalog.prerequisites
  | disabling => catalog.dependents

/-- The message about an extension that was changed. -/
def event : Direction → String → Event
  | enabling => .enabled
  | disabling => .disabled

/-- The decision about an extension. -/
def step (catalog : ExtensionCatalog) : Direction → Nat → State → Step
  | enabling => State.enable catalog
  | disabling => State.disable catalog

@[simp]
theorem isSettled_enabling : enabling.IsSettled state id ↔ state.IsOn id := Iff.rfl

@[simp]
theorem isSettled_disabling : disabling.IsSettled state id ↔ ¬state.IsOn id :=
  (Bool.not_eq_true _).symm.to_iff

@[simp]
theorem isSettled_touch : direction.IsSettled (state.touch id) other ↔
    direction.IsSettled state other := Iff.rfl

@[simp]
theorem isSettled_settle : direction.IsSettled (direction.settle state id) other ↔
    direction.IsSettled state other ∨ other = id := by
  cases direction with
  | enabling => exact isOn_switchOn
  | disabling =>
      rw [isSettled_disabling, isSettled_disabling, settle, isOn_switchOff, not_and_or, not_not]

theorem settle_touch : direction.settle (state.touch id) id = direction.settle state id := by
  cases direction with
  | enabling => exact switchOn_touch
  | disabling => exact switchOff_touch

end Direction

/-! ## Calls -/

/-- A part of the calls: a call for an extension, or the look at a list of neighbours. -/
inductive Part where
  | call (id : Nat)
  | neighbours (ids : List Nat)

namespace Part

/-- The extensions that a part starts from. -/
def roots : Part → List Nat
  | call id => [id]
  | neighbours ids => ids

/-- The number of calls that a part makes in any case. -/
def leastCalls : Part → Nat
  | call _ => 1
  | neighbours _ => 0

end Part

namespace Direction

variable {direction : Direction} {catalog : ExtensionCatalog} {part : Part}
  {state middle after : State} {id : Nat} {ids visited first others : List Nat} {calls more : Nat}

/-- What a part does to a state, the extensions that it changes in order, and the number of calls.
A call touches its extension and does nothing more if that is settled; neighbours are looked at one
after the other, and there is a call for each one that is not settled by then. -/
inductive Runs (catalog : ExtensionCatalog) (direction : Direction) :
    Part → State → State → List Nat → Nat → Prop
  | settled {state : State} {id : Nat} (settled : direction.IsSettled state id) :
      Runs catalog direction (.call id) state (state.touch id) [] 1
  | changed {state after : State} {id calls : Nat} {visited : List Nat}
      (unsettled : ¬direction.IsSettled state id)
      (spread : Runs catalog direction (.neighbours (direction.neighbours catalog id))
        (direction.settle state id) after visited calls) :
      Runs catalog direction (.call id) state after (id :: visited) (calls + 1)
  | done {state : State} : Runs catalog direction (.neighbours []) state state [] 0
  | skipped {state after : State} {id calls : Nat} {ids visited : List Nat}
      (settled : direction.IsSettled state id)
      (rest : Runs catalog direction (.neighbours ids) state after visited calls) :
      Runs catalog direction (.neighbours (id :: ids)) state after visited calls
  | called {state middle after : State} {id calls more : Nat} {ids first others : List Nat}
      (unsettled : ¬direction.IsSettled state id)
      (call : Runs catalog direction (.call id) state middle first calls)
      (rest : Runs catalog direction (.neighbours ids) middle after others more) :
      Runs catalog direction (.neighbours (id :: ids)) state after (first ++ others) (calls + more)

namespace Runs

/-- A part has one outcome. -/
theorem unique {after' : State} {visited' : List Nat} {calls' : Nat}
    (runs : Runs catalog direction part state after visited calls)
    (again : Runs catalog direction part state after' visited' calls') :
    after' = after ∧ visited' = visited ∧ calls' = calls := by
  induction runs generalizing after' visited' calls' with
  | settled settled =>
      cases again with
      | settled => exact ⟨rfl, rfl, rfl⟩
      | changed unsettled => exact absurd settled unsettled
  | changed unsettled _ ih =>
      cases again with
      | settled settled => exact absurd settled unsettled
      | changed _ spread =>
          rcases ih spread with ⟨rfl, rfl, rfl⟩
          exact ⟨rfl, rfl, rfl⟩
  | done =>
      cases again
      exact ⟨rfl, rfl, rfl⟩
  | skipped settled _ ih =>
      cases again with
      | skipped _ rest => exact ih rest
      | called unsettled => exact absurd settled unsettled
  | called unsettled _ _ ihCall ihRest =>
      cases again with
      | skipped settled => exact absurd settled unsettled
      | called _ call rest =>
          rcases ihCall call with ⟨rfl, rfl, rfl⟩
          rcases ihRest rest with ⟨rfl, rfl, rfl⟩
          exact ⟨rfl, rfl, rfl⟩

/-- A list of neighbours is looked at as its two parts one after the other. -/
theorem split {left right : List Nat}
    (runs : Runs catalog direction (.neighbours (left ++ right)) state after visited calls) :
    ∃ middle first others calls more,
      Runs catalog direction (.neighbours left) state middle first calls ∧
      Runs catalog direction (.neighbours right) middle after others more ∧
      visited = first ++ others := by
  induction left generalizing state visited calls with
  | nil => exact ⟨_, _, _, _, _, .done, runs, rfl⟩
  | cons id ids ih =>
      cases runs with
      | skipped settled rest =>
          rcases ih rest with ⟨_, _, _, _, _, left, right, rfl⟩
          exact ⟨_, _, _, _, _, .skipped settled left, right, rfl⟩
      | called unsettled call rest =>
          rcases ih rest with ⟨_, _, _, _, _, left, right, rfl⟩
          exact ⟨_, _, _, _, _, .called unsettled call left, right, (List.append_assoc _ _ _).symm⟩

/-- A call touches its extension first, so that it makes no difference whether it was touched. -/
theorem of_touch (runs : Runs catalog direction (.call id) (state.touch id) after visited calls) :
    Runs catalog direction (.call id) state after visited calls := by
  cases runs with
  | settled settled =>
      have same : (state.touch id).touch id = state.touch id := by
        simp only [touch, Nat.or_assoc, Nat.or_self]
      rw [same]
      exact .settled (isSettled_touch.mp settled)
  | changed unsettled spread =>
      rw [settle_touch] at spread
      exact .changed (mt isSettled_touch.mpr unsettled) spread

end Runs

/-! ## What calls change -/

/-- Whether a list has, once each, the extensions in which two states differ, every one of them a
root or behind an extension that leads to it. -/
structure Visits (catalog : ExtensionCatalog) (direction : Direction) (roots : List Nat)
    (before after : State) (visited : List Nat) : Prop where
  nodup : visited.Nodup
  unsettled : ∀ id ∈ visited, ¬direction.IsSettled before id
  settled : ∀ id, direction.IsSettled after id ↔ direction.IsSettled before id ∨ id ∈ visited
  ordered : ∀ earlier id later, visited = earlier ++ id :: later →
    id ∈ roots ∨ ∃ parent ∈ earlier, id ∈ direction.neighbours catalog parent

theorem Visits.mem_iff {roots : List Nat}
    (visits : Visits catalog direction roots state after visited) :
    id ∈ visited ↔ direction.IsSettled after id ∧ ¬direction.IsSettled state id := by
  rw [visits.settled id]
  constructor
  · exact fun member => ⟨Or.inr member, visits.unsettled id member⟩
  · rintro ⟨old | member, open_⟩
    · exact absurd old open_
    · exact member

theorem Visits.nil (roots : List Nat) (same : ∀ id, direction.IsSettled after id ↔
    direction.IsSettled state id) : Visits catalog direction roots state after [] where
  nodup := List.nodup_nil
  unsettled _ member := absurd member List.not_mem_nil
  settled id := by simp [same id]
  ordered earlier id later none := by simp at none

/-- What is changed first is a root, and what it leads to comes after it. -/
theorem Visits.cons (unsettled : ¬direction.IsSettled state id)
    (visits : Visits catalog direction (direction.neighbours catalog id) (direction.settle state id)
      after visited) :
    Visits catalog direction [id] state after (id :: visited) where
  nodup := by
    refine List.nodup_cons.mpr ⟨fun member => ?_, visits.nodup⟩
    exact visits.unsettled id member (isSettled_settle.mpr (Or.inr rfl))
  unsettled other member := by
    rcases List.mem_cons.mp member with rfl | later
    · exact unsettled
    · exact mt (fun old => isSettled_settle.mpr (Or.inl old))
        (visits.unsettled other later)
  settled other := by
    rw [visits.settled, isSettled_settle, List.mem_cons, or_assoc]
  ordered earlier other later same := by
    rcases List.cons_eq_append_iff.mp same with ⟨_, first⟩ | ⟨rest, rfl, split⟩
    · injection first with here _
      exact Or.inl (List.mem_singleton.mpr here)
    · right
      rcases visits.ordered rest other later split with next | ⟨parent, member, leads⟩
      · exact ⟨id, List.mem_cons_self, next⟩
      · exact ⟨parent, List.mem_cons_of_mem _ member, leads⟩

theorem Visits.append {left right : List Nat}
    (before : Visits catalog direction left state middle first)
    (afterwards : Visits catalog direction right middle after others) :
    Visits catalog direction (left ++ right) state after (first ++ others) where
  nodup := by
    refine List.nodup_append'.mpr ⟨before.nodup, afterwards.nodup, fun id here there => ?_⟩
    exact afterwards.unsettled id there ((before.settled id).mpr (Or.inr here))
  unsettled id member := by
    rcases List.mem_append.mp member with here | there
    · exact before.unsettled id here
    · exact mt (fun old => (before.settled id).mpr (Or.inl old)) (afterwards.unsettled id there)
  settled id := by
    rw [afterwards.settled, before.settled, List.mem_append, or_assoc]
  ordered earlier id later same := by
    rcases List.append_eq_append_iff.mp same with ⟨gap, rfl, split⟩ | ⟨gap, split, rest⟩
    · rcases afterwards.ordered gap id later split with root | ⟨parent, member, leads⟩
      · exact Or.inl (List.mem_append_right _ root)
      · exact Or.inr ⟨parent, List.mem_append_right _ member, leads⟩
    · cases gap with
      | nil =>
          rcases afterwards.ordered [] id later rest.symm with root | ⟨_, member, _⟩
          · exact Or.inl (List.mem_append_right _ root)
          · cases member
      | cons next gap =>
          injection rest with here _
          rcases before.ordered earlier id gap (here ▸ split) with root | behind
          · exact Or.inl (List.mem_append_left _ root)
          · exact Or.inr behind

/-- Calls change every extension that they visit once, and there is one call for each, besides a
first call that finds nothing to change. -/
theorem Runs.visits (runs : Runs catalog direction part state after visited calls) :
    Visits catalog direction part.roots state after visited ∧
      calls = max part.leastCalls visited.length := by
  induction runs with
  | settled settled => exact ⟨.nil _ fun _ => isSettled_touch, rfl⟩
  | changed unsettled _ ih =>
      refine ⟨ih.1.cons unsettled, ?_⟩
      rw [ih.2, Part.leastCalls, Part.leastCalls, List.length_cons]
      omega
  | done => exact ⟨.nil _ fun _ => Iff.rfl, rfl⟩
  | @skipped state _ id _ _ _ _ _ ih =>
      have nothing : Visits catalog direction [id] state state [] := .nil [id] fun _ => Iff.rfl
      exact ⟨nothing.append ih.1, ih.2⟩
  | called unsettled call _ ihCall ihRest =>
      refine ⟨ihCall.1.append ihRest.1, ?_⟩
      -- The call is made for an extension that is not settled, so it changes that one at least.
      cases call with
      | settled settled => exact absurd settled unsettled
      | changed _ spread =>
          rw [ihCall.2, ihRest.2, List.length_append]
          simp [Part.leastCalls]

/-- Whether messages are those about some extensions, in the same order. -/
def Logs (catalog : ExtensionCatalog) (direction : Direction) (events : List Event)
    (visited : List Nat) : Prop :=
  List.Forall₂ (fun event id => ∃ extension, catalog.get? id = some extension ∧
    event = direction.event extension.name) events visited

/-- Whether a step is that of a call: it does not fail, and its messages are those about the
extensions that the call changes. -/
def Takes (catalog : ExtensionCatalog) (direction : Direction) (part : Part) (before : State)
    (step : Step) : Prop :=
  step.failure = none ∧ ∃ visited calls,
    Runs catalog direction part before step.state visited calls ∧
    Logs catalog direction step.events visited

/-- A list that starts with an extension to be changed has its neighbours pending next. -/
theorem Takes.cons_of_not_isSettled {extension : Extension} {step : Step}
    (unsettled : ¬direction.IsSettled state id) (found : catalog.get? id = some extension)
    (takes : Takes catalog direction (.neighbours (direction.neighbours catalog id ++ ids))
      (direction.settle state id) step) :
    Takes catalog direction (.neighbours (id :: ids)) state
      (step.after (direction.event extension.name)) := by
  rcases takes with ⟨finished, visited, calls, runs, logs⟩
  rcases runs.split with ⟨middle, first, others, calls, more, spread, rest, rfl⟩
  exact ⟨finished, _, _, .called unsettled (.changed unsettled spread) rest,
    .cons ⟨extension, found, rfl⟩ logs⟩

/-- A list that starts with a settled extension is looked at like the rest of it. -/
theorem Takes.cons_of_isSettled {step : Step} (settled : direction.IsSettled state id)
    (takes : Takes catalog direction (.neighbours ids) state step) :
    Takes catalog direction (.neighbours (id :: ids)) state step := by
  rcases takes with ⟨finished, visited, calls, runs, logs⟩
  exact ⟨finished, visited, calls, .skipped settled runs, logs⟩

theorem Takes.nil : Takes catalog direction (.neighbours []) state (.skip state) :=
  ⟨rfl, [], 0, .done, .nil⟩

/-- A call for an extension is the look at it alone, after it was touched. -/
theorem Takes.call {step : Step}
    (takes : Takes catalog direction (.neighbours [id]) (state.touch id) step) :
    Takes catalog direction (.call id) state step := by
  rcases step with ⟨after, events, failure⟩
  rcases takes with ⟨finished, visited, calls, runs, logs⟩
  refine ⟨finished, visited, ?_⟩
  cases runs with
  | skipped settled rest =>
      cases rest
      exact ⟨1, .settled (isSettled_touch.mp settled), logs⟩
  | called unsettled call rest =>
      cases rest
      simp only [List.append_nil] at logs ⊢
      exact ⟨_, call.of_touch, logs⟩

end Direction

/-! ## Decisions as calls -/

namespace State

variable {catalog : ExtensionCatalog} {state : State} {id : Nat}

theorem takes_enableAll (accepted : catalog.Accepted) {pending : List Nat}
    (below : ∀ id ∈ pending, id < catalog.size) :
    Direction.Takes catalog .enabling (.neighbours pending) state
      (enableAll catalog pending state) := by
  fun_induction enableAll catalog pending state with
  | case1 state => exact .nil
  | case2 id pending state on ih =>
      refine .cons_of_isSettled on (ih fun other member => ?_)
      exact below other (List.mem_cons_of_mem _ member)
  | case3 id pending state off missing =>
      have bound := List.getElem?_eq_none_iff.mp missing
      exact absurd (below id List.mem_cons_self) (Nat.not_lt.mpr bound)
  | case4 id pending state off extension found ih =>
      have unsettled : ¬Direction.enabling.IsSettled state id := off
      refine Direction.Takes.cons_of_not_isSettled unsettled found (ih fun other member => ?_)
      rcases List.mem_append.mp member with required | waiting
      · exact (accepted.lt_size_of_prerequisite required).1
      · exact below other (List.mem_cons_of_mem _ waiting)

theorem takes_disableAll (accepted : catalog.Accepted) {pending : List Nat}
    (below : ∀ id ∈ pending, id < catalog.size) :
    Direction.Takes catalog .disabling (.neighbours pending) state
      (disableAll catalog pending state) := by
  fun_induction disableAll catalog pending state with
  | case1 state => exact .nil
  | case2 id pending state on missing =>
      have bound := List.getElem?_eq_none_iff.mp missing
      exact absurd (below id List.mem_cons_self) (Nat.not_lt.mpr bound)
  | case3 id pending state on extension found ih =>
      have unsettled : ¬Direction.disabling.IsSettled state id := fun settled =>
        Direction.isSettled_disabling.mp settled on
      refine Direction.Takes.cons_of_not_isSettled unsettled found (ih fun other member => ?_)
      rcases List.mem_append.mp member with dependent | waiting
      · exact (accepted.lt_size_of_dependent dependent).2
      · exact below other (List.mem_cons_of_mem _ waiting)
  | case4 id pending state off ih =>
      refine .cons_of_isSettled (Direction.isSettled_disabling.mpr off) (ih fun other member => ?_)
      exact below other (List.mem_cons_of_mem _ member)

/-- A decision about an extension of the catalog makes the calls of its direction. -/
theorem takes_step (accepted : catalog.Accepted) (below : id < catalog.size)
    (direction : Direction) :
    Direction.Takes catalog direction (.call id) state (direction.step catalog id state) := by
  have pending : ∀ other ∈ [id], other < catalog.size := by simpa using below
  cases direction with
  | enabling => exact .call (takes_enableAll accepted pending)
  | disabling => exact .call (takes_disableAll accepted pending)

end State

end TargetFeatures.Session
