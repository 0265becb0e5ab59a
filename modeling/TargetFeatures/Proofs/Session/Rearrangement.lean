import TargetFeatures.Proofs.Session.Replay

/-!
# Decisions in another order

Two decisions conflict when one of them enables an extension and the other disables that extension
or something that it requires. Any list of decisions can be rearranged as long as conflicting ones
keep their order: whether an extension stays on depends on the disabling decisions after an enabling
one, and those that matter to it conflict with it. Two conflicting decisions never commute, because
the disabled extension is off after one order and on after the other.
-/

namespace TargetFeatures.Session

namespace Decision

variable {catalog : ExtensionCatalog} {decisions order history : List Decision} {id : Nat}

/-- Whether one of two decisions enables an extension and the other disables that extension or one
that it requires, directly or not. -/
def Conflict (catalog : ExtensionCatalog) : Decision → Decision → Prop
  | .enable chosen, .disable other => catalog.Ancestor chosen other
  | .disable other, .enable chosen => catalog.Ancestor chosen other
  | _, _ => False

/-- Whether a list has the decisions of another one with conflicting ones in the same order. Equal
decisions are told apart by their positions, and `place` says where each position goes. -/
def Rearranges (catalog : ExtensionCatalog) (decisions order : List Decision) : Prop :=
  ∃ place : Fin decisions.length ≃ Fin order.length,
    (∀ position, order.get (place position) = decisions.get position) ∧
    ∀ earlier later, earlier < later →
      Conflict catalog (decisions.get earlier) (decisions.get later) → place earlier < place later

theorem Conflict.symm {first second : Decision} (conflict : Conflict catalog first second) :
    Conflict catalog second first := by
  cases first <;> cases second <;> exact conflict

theorem Rearranges.symm (rearranged : Rearranges catalog decisions order) :
    Rearranges catalog order decisions := by
  rcases rearranged with ⟨place, same, keeps⟩
  refine ⟨place.symm, ?_, ?_⟩
  · intro position
    rw [← same, Equiv.apply_symm_apply]
  · intro earlier later before conflict
    by_contra notBefore
    have different : place.symm later ≠ place.symm earlier := by
      intro equal
      exact before.ne (place.symm.injective equal).symm
    have swapped : place.symm later < place.symm earlier :=
      lt_of_le_of_ne (not_lt.mp notBefore) different
    have kept := keeps _ _ swapped (by
      rw [← same, ← same, Equiv.apply_symm_apply, Equiv.apply_symm_apply]
      exact conflict.symm)
    rw [Equiv.apply_symm_apply, Equiv.apply_symm_apply] at kept
    exact before.not_gt kept

theorem Rearranges.mem_of_mem {decision : Decision}
    (rearranged : Rearranges catalog decisions order)
    (member : decision ∈ decisions) : decision ∈ order := by
  rcases rearranged with ⟨place, same, _⟩
  rcases List.get_of_mem member with ⟨position, rfl⟩
  rw [← same]
  exact List.get_mem _ _

theorem Rearranges.mem_iff {decision : Decision} (rearranged : Rearranges catalog decisions order) :
    decision ∈ order ↔ decision ∈ decisions :=
  ⟨rearranged.symm.mem_of_mem, rearranged.mem_of_mem⟩

/-! ## What a list of decisions describes -/

theorem staysOn_iff_get :
    StaysOn catalog decisions id ↔
      ∃ position chosen, decisions.get position = .enable chosen ∧ catalog.Ancestor chosen id ∧
        ∀ later, position < later → ∀ other, decisions.get later = .disable other →
          ¬catalog.Descendant other id := by
  constructor
  · rintro ⟨before, chosen, after, rfl, reached, undisturbed⟩
    refine ⟨⟨before.length, by simp⟩, chosen, by simp, reached, ?_⟩
    intro later behind other disables
    apply undisturbed other
    rw [← disables, List.get_eq_getElem, List.getElem_append_right (Nat.le_of_lt behind)]
    rcases Nat.exists_eq_add_of_lt behind with ⟨offset, place⟩
    simp [place, Nat.add_assoc]
  · rintro ⟨position, chosen, enables, reached, undisturbed⟩
    refine ⟨decisions.take position, chosen, decisions.drop (position + 1), ?_, reached, ?_⟩
    · rw [← enables, List.get_eq_getElem, List.getElem_cons_drop, List.take_append_drop]
    · intro other member
      rcases List.mem_iff_getElem.mp member with ⟨offset, bound, disables⟩
      rw [List.getElem_drop] at disables
      rw [List.length_drop] at bound
      apply undisturbed ⟨position + 1 + offset, by omega⟩
      · simp only [Fin.lt_def]
        omega
      · exact disables

theorem staysOn_append :
    StaysOn catalog (history ++ decisions) id ↔
      (StaysOn catalog history id ∧
        ∀ other, .disable other ∈ decisions → ¬catalog.Descendant other id) ∨
      StaysOn catalog decisions id := by
  induction decisions using List.reverseRecOn with
  | nil => simp [not_staysOn_nil]
  | append_singleton rest last ih =>
      rw [← List.append_assoc]
      cases last with
      | enable chosen =>
          rw [staysOn_append_enable, staysOn_append_enable, ih]
          simp [or_assoc]
      | disable chosen =>
          rw [staysOn_append_disable, staysOn_append_disable, ih, or_and_right]
          simp only [List.mem_append, List.mem_singleton, disable.injEq, or_imp, forall_and,
            forall_eq, and_assoc]

theorem concerns_append :
    Concerns catalog (history ++ decisions) id ↔
      Concerns catalog history id ∨ Concerns catalog decisions id := by
  simp only [Concerns, List.mem_append, or_and_right, exists_or]
  exact or_or_or_comm

/-- What disables an extension on which an enabling decision relies conflicts with that decision. -/
theorem conflict_of_ancestor {chosen other : Nat} (reached : catalog.Ancestor chosen id)
    (built : catalog.Descendant other id) : Conflict catalog (.enable chosen) (.disable other) :=
  reached.trans (ExtensionCatalog.descendant_iff_ancestor.mp built)

theorem Rearranges.staysOn (rearranged : Rearranges catalog decisions order)
    (stays : StaysOn catalog decisions id) : StaysOn catalog order id := by
  rcases staysOn_iff_get.mp stays with ⟨position, chosen, enables, reached, undisturbed⟩
  rcases rearranged.symm with ⟨place, same, keeps⟩
  have back : ∀ spot, ∃ origin, place origin = spot := place.surjective
  rcases back position with ⟨origin, rfl⟩
  rw [same] at enables
  refine staysOn_iff_get.mpr ⟨origin, chosen, enables, reached, ?_⟩
  intro later behind other disables built
  -- A disabling decision that matters conflicts, so it came later before as well.
  have conflict : Conflict catalog (order.get origin) (order.get later) := by
    rw [enables, disables]
    exact conflict_of_ancestor reached built
  exact undisturbed (place later) (keeps origin later behind conflict) other
    ((same later).trans disables) built

theorem Rearranges.staysOn_append_iff (rearranged : Rearranges catalog decisions order) :
    StaysOn catalog (history ++ order) id ↔ StaysOn catalog (history ++ decisions) id := by
  rw [staysOn_append, staysOn_append]
  simp only [rearranged.mem_iff]
  exact or_congr_right ⟨rearranged.symm.staysOn, rearranged.staysOn⟩

theorem Rearranges.concerns_append_iff (rearranged : Rearranges catalog decisions order) :
    Concerns catalog (history ++ order) id ↔ Concerns catalog (history ++ decisions) id := by
  rw [concerns_append, concerns_append]
  simp only [Concerns, rearranged.mem_iff]

end Decision

/-! ## Taking decisions in a session -/

section

variable {catalog : ExtensionCatalog} {session : Session} {decisions order : List Decision}

theorem Reachable.replay (reachable : Reachable catalog session)
    (below : ∀ decision ∈ decisions, decision.subject < catalog.size) :
    Reachable catalog (session.replay decisions) :=
  reachable.run (Decision.onCatalog_operations below)

theorem baseArch_replay (accepted : session.catalog.Accepted) (decisions : List Decision) :
    (session.replay decisions).state.baseArch = session.state.baseArch := by
  have noBase : (decisions.map Decision.operation).filterMap Operation.base? = [] := by
    simp only [List.filterMap_map, List.filterMap_eq_nil_iff]
    intro decision _
    cases decision <;> rfl
  rw [Session.replay, baseArch_run accepted, noBase]
  rfl

theorem Reachable.exists_history_replay (reachable : Reachable catalog session)
    (accepted : catalog.Accepted) :
    ∃ history, ∀ decisions : List Decision,
      (∀ decision ∈ decisions, decision.subject < catalog.size) →
        (session.replay decisions).state.Reflects catalog (history ++ decisions) := by
  rcases reachable.exists_history accepted with ⟨history, described⟩
  refine ⟨history, fun decisions below => ?_⟩
  have asOperations := described _ (Decision.onCatalog_operations below)
  simp only [List.flatMap_map, Decision.decisions_operation, List.flatMap_singleton']
    at asOperations
  exact asOperations

theorem Reachable.state_replay_eq (reachable : Reachable catalog session)
    (accepted : catalog.Accepted)
    (below : ∀ decision ∈ decisions, decision.subject < catalog.size)
    (rearranged : Decision.Rearranges catalog decisions order) :
    (session.replay order).state = (session.replay decisions).state := by
  have belowOrder : ∀ decision ∈ order, decision.subject < catalog.size :=
    fun decision member => below decision (rearranged.mem_iff.mp member)
  rcases reachable.exists_history_replay accepted with ⟨history, described⟩
  have asOrdered := described order belowOrder
  have asListed := described decisions below
  have acceptedHere : session.catalog.Accepted := by
    rwa [(reachable.regular accepted).catalog_eq]
  apply State.eq_of_members
  · intro id
    exact (asOrdered.isOn id).trans (rearranged.staysOn_append_iff.trans (asListed.isOn id).symm)
  · intro id
    exact (asOrdered.isTouched id).trans
      (rearranged.concerns_append_iff.trans (asListed.isTouched id).symm)
  · rw [baseArch_replay acceptedHere, baseArch_replay acceptedHere]

theorem Reachable.enabled_replay_ne (reachable : Reachable catalog session)
    (accepted : catalog.Accepted) {first second : Decision}
    (below : ∀ decision ∈ [first, second], decision.subject < catalog.size)
    (conflict : Decision.Conflict catalog first second) :
    (session.replay [first, second]).state.enabled ≠
      (session.replay [second, first]).state.enabled := by
  rcases reachable.exists_history_replay accepted with ⟨history, described⟩
  have offLast : ∀ {chosen other : Nat},
      (∀ decision ∈ [.enable chosen, .disable other], Decision.subject decision < catalog.size) →
      catalog.Ancestor chosen other →
      (session.replay [.enable chosen, .disable other]).state.enabled ≠
        (session.replay [.disable other, .enable chosen]).state.enabled := by
    intro chosen other below reached same
    have off : ¬(session.replay [.enable chosen, .disable other]).state.IsOn other := by
      rw [(described _ below).isOn, ← List.singleton_append, ← List.append_assoc,
        Decision.staysOn_append_disable]
      intro stays
      exact stays.2 Relation.ReflTransGen.refl
    have on : (session.replay [.disable other, .enable chosen]).state.IsOn other := by
      have belowTurned : ∀ decision ∈ [.disable other, .enable chosen],
          Decision.subject decision < catalog.size :=
        fun decision member => below decision (by simpa [or_comm] using member)
      rw [(described _ belowTurned).isOn, ← List.singleton_append, ← List.append_assoc,
        Decision.staysOn_append_enable]
      exact Or.inr reached
    exact off (Mask.eq_iff.mp same other |>.mpr on)
  cases first with
  | enable chosen =>
      cases second with
      | enable other => exact conflict.elim
      | disable other => exact offLast below conflict
  | disable other =>
      cases second with
      | enable chosen =>
          exact (offLast (fun decision member => below decision (by simpa [or_comm] using member))
            conflict).symm
      | disable chosen => exact conflict.elim

end

/-- From every session that was reached on ids of the catalog, the decisions of a list can be taken
in any order that keeps the order of conflicting ones: none of them fails, and the state and the
feature list at the end are the same. Two conflicting decisions lead to different enabled sets in
their two orders. -/
theorem only_conflicts_are_ordered {catalog : ExtensionCatalog} (accepted : catalog.Accepted)
    {session : Session} (reachable : Reachable catalog session) :
    (∀ decisions order, (∀ decision ∈ decisions, Decision.subject decision < catalog.size) →
      Decision.Rearranges catalog decisions order →
      (session.replay order).state = (session.replay decisions).state ∧
      (∃ tokens, (session.replay order).featureList? = some tokens ∧
        (session.replay decisions).featureList? = some tokens) ∧
      ∀ before decision after, order = before ++ decision :: after →
        ((session.replay before).perform decision.operation).failure = none) ∧
    ∀ first second, (∀ decision ∈ [first, second], Decision.subject decision < catalog.size) →
      Decision.Conflict catalog first second →
      (session.replay [first, second]).state.enabled ≠
        (session.replay [second, first]).state.enabled := by
  constructor
  · intro decisions order below rearranged
    have belowOrder : ∀ decision ∈ order, decision.subject < catalog.size :=
      fun decision member => below decision (rearranged.mem_iff.mp member)
    have same := reachable.state_replay_eq accepted below rearranged
    have shown := ((reachable.replay below).regular accepted).featureList?_eq
    refine ⟨same, ⟨_, ?_, shown⟩, ?_⟩
    · rw [← shown]
      apply featureList?_congr
      · simp [Session.replay]
      · rw [same]
      · rw [same]
    · rintro before decision after rfl
      have belowBefore : ∀ other ∈ before, other.subject < catalog.size :=
        fun other member => belowOrder other (List.mem_append_left _ member)
      apply (reachable.replay belowBefore).failure_perform accepted
      exact Decision.onCatalog_operation (belowOrder decision (by simp))
  · intro first second below conflict
    exact reachable.enabled_replay_ne accepted below conflict

theorem only_conflicts_are_ordered_small :
    let session := small.run [.archDefaults smallArchitecture, .disable 0]
    let decisions : List Decision := [.enable 1, .disable 2, .disable 0, .enable 1]
    let order : List Decision := [.disable 2, .enable 1, .disable 0, .enable 1]
    ExtensionCatalog.small.Accepted ∧ Reachable .small session ∧
    Decision.Rearranges .small decisions order ∧
    (session.replay order).state = (session.replay decisions).state ∧
    Decision.Conflict .small (.enable 1) (.disable 0) ∧
    (session.replay [.enable 1, .disable 0]).state.enabled ≠
      (session.replay [.disable 0, .enable 1]).state.enabled := by
  intro session decisions order
  have reachable : Reachable .small session :=
    ⟨"no-", small, [.archDefaults smallArchitecture, .disable 0], started_small, by decide, rfl⟩
  have apart : ¬ExtensionCatalog.small.Ancestor 1 2 := by
    intro reached
    have below : ∀ {id other : Nat}, ExtensionCatalog.small.Ancestor id other → other ≤ id := by
      intro id other reached
      induction reached with
      | refl => exact Nat.le_refl _
      | tail _ required ih =>
          rw [ExtensionCatalog.mem_prerequisites] at required
          simp only [ExtensionCatalog.small, List.mem_cons, Prod.mk.injEq, List.not_mem_nil,
            or_false] at required
          omega
    exact absurd (below reached) (by decide)
  have requires : Decision.Conflict .small (.enable 1) (.disable 0) :=
    ExtensionCatalog.Ancestor.of_prerequisite (by decide)
  have rearranged : Decision.Rearranges .small decisions order := by
    refine ⟨(Equiv.swap 0 1 : Equiv.Perm (Fin 4)), by decide, ?_⟩
    intro earlier later before conflict
    by_cases swapped : earlier = ⟨0, by decide⟩ ∧ later = ⟨1, by decide⟩
    · rw [swapped.1, swapped.2] at conflict
      exact absurd conflict apart
    · clear conflict
      revert earlier later
      decide
  rcases only_conflicts_are_ordered ExtensionCatalog.accepted_small reachable with
    ⟨rearrange, conflicting⟩
  exact ⟨ExtensionCatalog.accepted_small, reachable, rearranged,
    (rearrange decisions order (by decide) rearranged).1, requires,
    conflicting _ _ (by decide) requires⟩

end TargetFeatures.Session
