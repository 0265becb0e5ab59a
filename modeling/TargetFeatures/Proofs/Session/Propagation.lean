import TargetFeatures.Proofs.Catalog.Dependency
import TargetFeatures.Session.State

/-!
# What one decision changes

Enabling walks from an extension to everything that it requires and stops at extensions that are
already on; disabling walks the other way. In the middle of a walk the enabled extensions are not
closed under prerequisites: what is still missing is in the list of pending extensions. `Raised` and
`Lowered` describe a whole walk from any such state, and their field `closes` says that a walk that
starts with all gaps pending ends without a gap.

From closed states this determines both sets of the state after one decision, for numbers outside
the catalog as well: `isOn_enable`, `isTouched_enable`, `isOn_disable` and `isTouched_disable`.
-/

namespace TargetFeatures.Session

namespace State

variable {catalog : ExtensionCatalog} {state : State} {id other : Nat}

/-! ## The sets of a state -/

/-- Whether an extension is enabled. -/
def IsOn (state : State) (id : Nat) : Prop := state.enabled.testBit id = true

/-- Whether a decision about an extension was made. -/
def IsTouched (state : State) (id : Nat) : Prop := state.touched.testBit id = true

@[simp]
theorem not_isOn_start : ¬start.IsOn id := by simp [start, IsOn]

@[simp]
theorem not_isTouched_start : ¬start.IsTouched id := by simp [start, IsTouched]

@[simp]
theorem isOn_touch : (state.touch id).IsOn other ↔ state.IsOn other := Iff.rfl

@[simp]
theorem isTouched_touch :
    (state.touch id).IsTouched other ↔ state.IsTouched other ∨ other = id := by
  simp [touch, IsTouched, Mask.testBit_single, @eq_comm _ id other]

@[simp]
theorem isOn_switchOn : (state.switchOn id).IsOn other ↔ state.IsOn other ∨ other = id := by
  simp [IsOn, testBit_switchOn, @eq_comm _ id other]

@[simp]
theorem isTouched_switchOn :
    (state.switchOn id).IsTouched other ↔ state.IsTouched other ∨ other = id :=
  isTouched_touch

@[simp]
theorem isOn_switchOff : (state.switchOff id).IsOn other ↔ state.IsOn other ∧ other ≠ id := by
  simp [IsOn, testBit_switchOff, @eq_comm _ id other]

@[simp]
theorem isTouched_switchOff :
    (state.switchOff id).IsTouched other ↔ state.IsTouched other ∨ other = id :=
  isTouched_touch

/-- Whether every enabled extension has its prerequisites enabled. -/
def Closed (catalog : ExtensionCatalog) (state : State) : Prop :=
  ∀ id, state.IsOn id → ∀ prerequisite ∈ catalog.prerequisites id, state.IsOn prerequisite

theorem Closed.isOn_of_ancestor (closed : state.Closed catalog) (on : state.IsOn id)
    (reached : catalog.Ancestor id other) : state.IsOn other :=
  ExtensionCatalog.ClosedSet.mem_of_ancestor closed on reached

/-! ## Walking to prerequisites -/

/-- What enabling the extensions of a list does to a state. -/
structure Raised (catalog : ExtensionCatalog) (pending : List Nat) (before after : State) :
    Prop where
  keeps : ∀ id, before.IsOn id → after.IsOn id
  reaches : ∀ id ∈ pending, after.IsOn id
  origin : ∀ id, after.IsOn id → before.IsOn id ∨ ∃ start ∈ pending, catalog.Ancestor start id
  closes : (∀ id, before.IsOn id → ∀ prerequisite ∈ catalog.prerequisites id,
    before.IsOn prerequisite ∨ prerequisite ∈ pending) → after.Closed catalog
  touches : ∀ id, after.IsTouched id ↔ before.IsTouched id ∨ (after.IsOn id ∧ ¬before.IsOn id)
  baseArch : after.baseArch = before.baseArch

theorem Raised.skip : Raised catalog [] state state where
  keeps _ on := on
  reaches _ member := absurd member List.not_mem_nil
  origin _ on := Or.inl on
  closes gaps id on prerequisite required := by
    simpa using gaps id on prerequisite required
  touches _ := by simp
  baseArch := rfl

theorem Raised.cons_of_isOn {pending : List Nat} {after : State} (on : state.IsOn id)
    (raised : Raised catalog pending state after) : Raised catalog (id :: pending) state after where
  keeps := raised.keeps
  reaches := by
    rintro other (_ | ⟨_, member⟩)
    · exact raised.keeps id on
    · exact raised.reaches other member
  origin other otherOn := by
    rcases raised.origin other otherOn with old | ⟨start, member, reached⟩
    · exact Or.inl old
    · exact Or.inr ⟨start, List.mem_cons_of_mem _ member, reached⟩
  closes gaps := by
    apply raised.closes
    intro other otherOn prerequisite required
    rcases gaps other otherOn prerequisite required with present | (_ | ⟨_, member⟩)
    · exact Or.inl present
    · exact Or.inl on
    · exact Or.inr member
  touches := raised.touches
  baseArch := raised.baseArch

/-- Switching an extension on leaves its prerequisites pending. -/
theorem Raised.cons_of_switchOn {pending : List Nat} {after : State} (off : ¬state.IsOn id)
    (raised : Raised catalog (catalog.prerequisites id ++ pending) (state.switchOn id) after) :
    Raised catalog (id :: pending) state after where
  keeps other on := raised.keeps other (isOn_switchOn.mpr (Or.inl on))
  reaches := by
    rintro other (_ | ⟨_, member⟩)
    · exact raised.keeps id (isOn_switchOn.mpr (Or.inr rfl))
    · exact raised.reaches other (List.mem_append_right _ member)
  origin other otherOn := by
    rcases raised.origin other otherOn with old | ⟨start, member, reached⟩
    · rcases isOn_switchOn.mp old with before | rfl
      · exact Or.inl before
      · exact Or.inr ⟨other, List.mem_cons_self, .refl other⟩
    · right
      rcases List.mem_append.mp member with required | waiting
      · have first := ExtensionCatalog.Ancestor.of_prerequisite required
        exact ⟨id, List.mem_cons_self, first.trans reached⟩
      · exact ⟨start, List.mem_cons_of_mem _ waiting, reached⟩
  closes gaps := by
    apply raised.closes
    intro other otherOn prerequisite required
    rcases isOn_switchOn.mp otherOn with old | rfl
    · rcases gaps other old prerequisite required with present | (_ | ⟨_, member⟩)
      · exact Or.inl (isOn_switchOn.mpr (Or.inl present))
      · exact Or.inl (isOn_switchOn.mpr (Or.inr rfl))
      · exact Or.inr (List.mem_append_right _ member)
    · exact Or.inr (List.mem_append_left _ required)
  touches other := by
    rw [raised.touches other, isTouched_switchOn, isOn_switchOn]
    by_cases same : other = id
    · subst same
      have on := raised.keeps other (isOn_switchOn.mpr (Or.inr rfl))
      simp [on, off]
    · simp [same]
  baseArch := raised.baseArch

theorem raised_enableAll (accepted : catalog.Accepted) {pending : List Nat}
    (below : ∀ id ∈ pending, id < catalog.size) :
    (enableAll catalog pending state).failure = none ∧
      Raised catalog pending state (enableAll catalog pending state).state := by
  fun_induction enableAll catalog pending state with
  | case1 state => exact ⟨rfl, Raised.skip⟩
  | case2 id pending state on ih =>
      rcases ih fun other member => below other (List.mem_cons_of_mem _ member) with
        ⟨finished, raised⟩
      exact ⟨finished, raised.cons_of_isOn on⟩
  | case3 id pending state off missing =>
      have bound := List.getElem?_eq_none_iff.mp missing
      exact absurd (below id List.mem_cons_self) (Nat.not_lt.mpr bound)
  | case4 id pending state off extension found ih =>
      have belowNext : ∀ other ∈ catalog.prerequisites id ++ pending, other < catalog.size := by
        intro other member
        rcases List.mem_append.mp member with required | waiting
        · exact (accepted.lt_size_of_prerequisite required).1
        · exact below other (List.mem_cons_of_mem _ waiting)
      rcases ih belowNext with ⟨finished, raised⟩
      exact ⟨finished, raised.cons_of_switchOn off⟩

/-! ## Walking to dependents -/

/-- What disabling the extensions of a list does to a state. -/
structure Lowered (catalog : ExtensionCatalog) (pending : List Nat) (before after : State) :
    Prop where
  keeps : ∀ id, after.IsOn id → before.IsOn id
  reaches : ∀ id ∈ pending, ¬after.IsOn id
  origin : ∀ id, before.IsOn id →
    after.IsOn id ∨ ∃ start ∈ pending, catalog.Descendant start id
  closes : (∀ id, before.IsOn id → ∀ prerequisite ∈ catalog.prerequisites id,
    before.IsOn prerequisite ∨ id ∈ pending) → after.Closed catalog
  touches : ∀ id, after.IsTouched id ↔ before.IsTouched id ∨ (before.IsOn id ∧ ¬after.IsOn id)
  baseArch : after.baseArch = before.baseArch

theorem Lowered.skip : Lowered catalog [] state state where
  keeps _ on := on
  reaches _ member := absurd member List.not_mem_nil
  origin _ on := Or.inl on
  closes gaps id on prerequisite required := by
    simpa using gaps id on prerequisite required
  touches _ := by simp
  baseArch := rfl

theorem Lowered.cons_of_not_isOn {pending : List Nat} {after : State} (off : ¬state.IsOn id)
    (lowered : Lowered catalog pending state after) :
    Lowered catalog (id :: pending) state after where
  keeps := lowered.keeps
  reaches := by
    rintro other (_ | ⟨_, member⟩)
    · exact fun on => off (lowered.keeps id on)
    · exact lowered.reaches other member
  origin other otherOn := by
    rcases lowered.origin other otherOn with still | ⟨start, member, reached⟩
    · exact Or.inl still
    · exact Or.inr ⟨start, List.mem_cons_of_mem _ member, reached⟩
  closes gaps := by
    apply lowered.closes
    intro other otherOn prerequisite required
    rcases gaps other otherOn prerequisite required with present | (_ | ⟨_, member⟩)
    · exact Or.inl present
    · exact absurd otherOn off
    · exact Or.inr member
  touches := lowered.touches
  baseArch := lowered.baseArch

/-- Switching an extension off leaves its dependents pending. -/
theorem Lowered.cons_of_switchOff {pending : List Nat} {after : State} (on : state.IsOn id)
    (lowered : Lowered catalog (catalog.dependents id ++ pending) (state.switchOff id) after) :
    Lowered catalog (id :: pending) state after where
  keeps other otherOn := (isOn_switchOff.mp (lowered.keeps other otherOn)).1
  reaches := by
    rintro other (_ | ⟨_, member⟩)
    · exact fun still => (isOn_switchOff.mp (lowered.keeps id still)).2 rfl
    · exact lowered.reaches other (List.mem_append_right _ member)
  origin other otherOn := by
    by_cases same : other = id
    · exact Or.inr ⟨id, List.mem_cons_self, same ▸ Relation.ReflTransGen.refl⟩
    · rcases lowered.origin other (isOn_switchOff.mpr ⟨otherOn, same⟩) with
        still | ⟨start, member, reached⟩
      · exact Or.inl still
      · right
        rcases List.mem_append.mp member with dependent | waiting
        · exact ⟨id, List.mem_cons_self, Relation.ReflTransGen.head dependent reached⟩
        · exact ⟨start, List.mem_cons_of_mem _ waiting, reached⟩
  closes gaps := by
    apply lowered.closes
    intro other otherOn prerequisite required
    rcases isOn_switchOff.mp otherOn with ⟨old, different⟩
    rcases gaps other old prerequisite required with present | (_ | ⟨_, member⟩)
    · by_cases same : prerequisite = id
      · subst same
        have dependent := ExtensionCatalog.mem_dependents.mpr
          (ExtensionCatalog.mem_prerequisites.mp required)
        exact Or.inr (List.mem_append_left _ dependent)
      · exact Or.inl (isOn_switchOff.mpr ⟨present, same⟩)
    · exact absurd rfl different
    · exact Or.inr (List.mem_append_right _ member)
  touches other := by
    rw [lowered.touches other, isTouched_switchOff, isOn_switchOff]
    by_cases same : other = id
    · subst same
      have off : ¬after.IsOn other :=
        fun still => (isOn_switchOff.mp (lowered.keeps other still)).2 rfl
      simp [on, off]
    · simp [same]
  baseArch := lowered.baseArch

theorem lowered_disableAll (accepted : catalog.Accepted) {pending : List Nat}
    (below : ∀ id ∈ pending, id < catalog.size) :
    (disableAll catalog pending state).failure = none ∧
      Lowered catalog pending state (disableAll catalog pending state).state := by
  fun_induction disableAll catalog pending state with
  | case1 state => exact ⟨rfl, Lowered.skip⟩
  | case2 id pending state on missing =>
      have bound := List.getElem?_eq_none_iff.mp missing
      exact absurd (below id List.mem_cons_self) (Nat.not_lt.mpr bound)
  | case3 id pending state on extension found ih =>
      have belowNext : ∀ other ∈ catalog.dependents id ++ pending, other < catalog.size := by
        intro other member
        rcases List.mem_append.mp member with dependent | waiting
        · exact (accepted.lt_size_of_dependent dependent).2
        · exact below other (List.mem_cons_of_mem _ waiting)
      rcases ih belowNext with ⟨finished, lowered⟩
      exact ⟨finished, lowered.cons_of_switchOff on⟩
  | case4 id pending state off ih =>
      rcases ih fun other member => below other (List.mem_cons_of_mem _ member) with
        ⟨finished, lowered⟩
      exact ⟨finished, lowered.cons_of_not_isOn off⟩

/-! ## One decision -/

theorem failure_enable_of_lt (accepted : catalog.Accepted) (below : id < catalog.size) :
    (enable catalog id state).failure = none :=
  (raised_enableAll accepted (by simpa using below)).1

theorem failure_disable_of_lt (accepted : catalog.Accepted) (below : id < catalog.size) :
    (disable catalog id state).failure = none :=
  (lowered_disableAll accepted (by simpa using below)).1

/-- Enabling a number outside the catalog fails after switching it on, which opens no gap. -/
theorem raised_enable (accepted : catalog.Accepted) (id : Nat) (state : State) :
    Raised catalog [id] (state.touch id) (enable catalog id state).state := by
  by_cases below : id < catalog.size
  · exact (raised_enableAll accepted (by simpa using below)).2
  · have beyond := Nat.not_lt.mp below
    have missing : catalog.get? id = none := List.getElem?_eq_none beyond
    rw [enable, enableAll]
    by_cases on : (state.touch id).enabled.testBit id = true
    · rw [dif_pos on, enableAll]
      exact Raised.skip.cons_of_isOn on
    · rw [dif_neg on]
      have raised : Raised catalog (catalog.prerequisites id ++ [])
          ((state.touch id).switchOn id) ((state.touch id).switchOn id) := by
        rw [accepted.prerequisites_of_size_le beyond]
        exact Raised.skip
      split
      · exact raised.cons_of_switchOn on
      · next found =>
          rw [missing] at found
          cases found

theorem lowered_disable (accepted : catalog.Accepted) (id : Nat) (state : State) :
    Lowered catalog [id] (state.touch id) (disable catalog id state).state := by
  by_cases below : id < catalog.size
  · exact (lowered_disableAll accepted (by simpa using below)).2
  · have beyond := Nat.not_lt.mp below
    have missing : catalog.get? id = none := List.getElem?_eq_none beyond
    rw [disable, disableAll]
    by_cases on : (state.touch id).enabled.testBit id = true
    · rw [dif_pos on]
      have lowered : Lowered catalog (catalog.dependents id ++ [])
          ((state.touch id).switchOff id) ((state.touch id).switchOff id) := by
        rw [accepted.dependents_of_size_le beyond]
        exact Lowered.skip
      split
      · exact lowered.cons_of_switchOff on
      · next found =>
          rw [missing] at found
          cases found
    · rw [dif_neg on, disableAll]
      exact Lowered.skip.cons_of_not_isOn on

@[simp]
theorem baseArch_enable (accepted : catalog.Accepted) :
    (enable catalog id state).state.baseArch = state.baseArch :=
  (raised_enable accepted id state).baseArch

@[simp]
theorem baseArch_disable (accepted : catalog.Accepted) :
    (disable catalog id state).state.baseArch = state.baseArch :=
  (lowered_disable accepted id state).baseArch

theorem IsTouched.enable (touched : state.IsTouched other) (accepted : catalog.Accepted) :
    (enable catalog id state).state.IsTouched other :=
  ((raised_enable accepted id state).touches other).mpr
    (Or.inl (isTouched_touch.mpr (Or.inl touched)))

theorem IsTouched.disable (touched : state.IsTouched other) (accepted : catalog.Accepted) :
    (disable catalog id state).state.IsTouched other :=
  ((lowered_disable accepted id state).touches other).mpr
    (Or.inl (isTouched_touch.mpr (Or.inl touched)))

/-- Whether the enabled extensions are closed under prerequisites and were all touched. -/
structure Coherent (catalog : ExtensionCatalog) (state : State) : Prop where
  closed : state.Closed catalog
  touched : ∀ id, state.IsOn id → state.IsTouched id

theorem coherent_start : start.Coherent catalog where
  closed _ on := absurd on not_isOn_start
  touched _ on := absurd on not_isOn_start

theorem isOn_enable (accepted : catalog.Accepted) (coherent : state.Coherent catalog) :
    (enable catalog id state).state.IsOn other ↔ state.IsOn other ∨ catalog.Ancestor id other := by
  have raised := raised_enable accepted id state
  have closed := raised.closes fun other on prerequisite required =>
    Or.inl (coherent.closed other on prerequisite required)
  constructor
  · intro on
    simpa using raised.origin other on
  · rintro (old | reached)
    · exact raised.keeps other old
    · exact closed.isOn_of_ancestor (raised.reaches id List.mem_cons_self) reached

theorem isTouched_enable (accepted : catalog.Accepted) (coherent : state.Coherent catalog) :
    (enable catalog id state).state.IsTouched other ↔
      state.IsTouched other ∨ catalog.Ancestor id other := by
  rw [(raised_enable accepted id state).touches other, isOn_enable accepted coherent,
    isTouched_touch, isOn_touch]
  constructor
  · rintro ((old | rfl) | ⟨on | reached, off⟩)
    · exact Or.inl old
    · exact Or.inr (.refl other)
    · exact absurd on off
    · exact Or.inr reached
  · rintro (old | reached)
    · exact Or.inl (Or.inl old)
    · by_cases on : state.IsOn other
      · exact Or.inl (Or.inl (coherent.touched other on))
      · exact Or.inr ⟨Or.inr reached, on⟩

theorem isOn_disable (accepted : catalog.Accepted) (coherent : state.Coherent catalog) :
    (disable catalog id state).state.IsOn other ↔
      state.IsOn other ∧ ¬catalog.Descendant id other := by
  have lowered := lowered_disable accepted id state
  have closed := lowered.closes fun other on prerequisite required =>
    Or.inl (coherent.closed other on prerequisite required)
  constructor
  · intro on
    refine ⟨lowered.keeps other on, fun reached => ?_⟩
    exact lowered.reaches id List.mem_cons_self
      (closed.isOn_of_ancestor on (ExtensionCatalog.descendant_iff_ancestor.mp reached))
  · rintro ⟨old, apart⟩
    rcases lowered.origin other old with still | ⟨start, member, reached⟩
    · exact still
    · exact absurd (List.mem_singleton.mp member ▸ reached) apart

theorem isTouched_disable (accepted : catalog.Accepted) (coherent : state.Coherent catalog) :
    (disable catalog id state).state.IsTouched other ↔ state.IsTouched other ∨ other = id := by
  rw [(lowered_disable accepted id state).touches other, isTouched_touch, isOn_touch]
  constructor
  · rintro (known | ⟨on, _⟩)
    · exact known
    · exact Or.inl (coherent.touched other on)
  · exact Or.inl

theorem Coherent.enable (accepted : catalog.Accepted) (coherent : state.Coherent catalog)
    (id : Nat) : (enable catalog id state).state.Coherent catalog where
  closed other on prerequisite required := by
    rw [isOn_enable accepted coherent] at on ⊢
    rcases on with old | reached
    · exact Or.inl (coherent.closed other old prerequisite required)
    · exact Or.inr (reached.trans (.of_prerequisite required))
  touched other on := by
    rw [isOn_enable accepted coherent] at on
    rw [isTouched_enable accepted coherent]
    exact on.imp_left (coherent.touched other)

theorem Coherent.disable (accepted : catalog.Accepted) (coherent : state.Coherent catalog)
    (id : Nat) : (disable catalog id state).state.Coherent catalog where
  closed other on prerequisite required := by
    rw [isOn_disable accepted coherent] at on ⊢
    refine ⟨coherent.closed other on.1 prerequisite required, fun reached => on.2 ?_⟩
    exact reached.tail (ExtensionCatalog.mem_dependents.mpr
      (ExtensionCatalog.mem_prerequisites.mp required))
  touched other on := by
    rw [isOn_disable accepted coherent] at on
    rw [isTouched_disable accepted coherent]
    exact Or.inl (coherent.touched other on.1)

end State

end TargetFeatures.Session
