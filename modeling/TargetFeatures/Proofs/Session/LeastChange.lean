import Mathlib.Order.Bounds.Basic
import TargetFeatures.Proofs.Session.Replay

/-!
# The least change

A decision changes no more than the dependencies force. Among all sets that have the prerequisites
of their members, enabling an extension ends with the smallest one that holds it and everything that
was enabled before, and disabling an extension ends with the largest one that lacks it and holds
nothing that was not enabled before. The touched set grows by the extension itself and by what was
switched on. Taking the same decision again changes nothing.

These are facts about single decisions on coherent states, for numbers outside the catalog as well
(`isLeast_onSet_enable`, `isGreatest_onSet_disable`); at the end they are put together for sessions.
-/

namespace TargetFeatures.Session

namespace State

variable {catalog : ExtensionCatalog} {state : State} {id : Nat}

/-- The enabled extensions. -/
def onSet (state : State) : Set Nat := {id | state.IsOn id}

/-- The extensions that decisions were made about. -/
def touchedSet (state : State) : Set Nat := {id | state.IsTouched id}

/-- Every closed set that holds the extension and the enabled ones holds the prerequisites that are
reached from it, so it holds all that enabling switches on. -/
theorem isLeast_onSet_enable (accepted : catalog.Accepted) (coherent : state.Coherent catalog) :
    IsLeast {ids | catalog.ClosedSet ids ∧ state.onSet ⊆ ids ∧ id ∈ ids}
      (enable catalog id state).state.onSet := by
  have raised := raised_enable accepted id state
  constructor
  · refine ⟨(coherent.enable accepted id).closed, ?_, ?_⟩
    · exact fun other on => raised.keeps other on
    · exact raised.reaches id List.mem_cons_self
  · rintro ids ⟨closed, within, member⟩ other on
    rcases (isOn_enable accepted coherent).mp on with old | reached
    · exact within old
    · exact closed.mem_of_ancestor member reached

/-- A closed set of enabled extensions that lacks the extension has nothing that requires it, so
disabling leaves all of it switched on. -/
theorem isGreatest_onSet_disable (accepted : catalog.Accepted) (coherent : state.Coherent catalog) :
    IsGreatest {ids | catalog.ClosedSet ids ∧ ids ⊆ state.onSet ∧ id ∉ ids}
      (disable catalog id state).state.onSet := by
  have lowered := lowered_disable accepted id state
  constructor
  · refine ⟨(coherent.disable accepted id).closed, ?_, ?_⟩
    · exact fun other on => lowered.keeps other on
    · exact lowered.reaches id List.mem_cons_self
  · rintro ids ⟨closed, within, missing⟩ other member
    refine (isOn_disable accepted coherent).mpr ⟨within member, ?_⟩
    intro reached
    exact missing (closed.mem_of_ancestor member
      (ExtensionCatalog.descendant_iff_ancestor.mp reached))

theorem touchedSet_enable (accepted : catalog.Accepted) :
    (enable catalog id state).state.touchedSet = state.touchedSet ∪
      ({id} ∪ (enable catalog id state).state.onSet \ state.onSet) := by
  ext other
  have touches := (raised_enable accepted id state).touches other
  rw [isTouched_touch, or_assoc] at touches
  exact touches

theorem touchedSet_disable (accepted : catalog.Accepted) (coherent : state.Coherent catalog) :
    (disable catalog id state).state.touchedSet = state.touchedSet ∪ {id} := by
  ext other
  exact isTouched_disable accepted coherent

theorem enable_enable (accepted : catalog.Accepted) (coherent : state.Coherent catalog) :
    (enable catalog id (enable catalog id state).state).state =
      (enable catalog id state).state := by
  apply eq_of_members
  · intro other
    rw [isOn_enable accepted (coherent.enable accepted id), isOn_enable accepted coherent,
      or_assoc, or_self]
  · intro other
    rw [isTouched_enable accepted (coherent.enable accepted id),
      isTouched_enable accepted coherent, or_assoc, or_self]
  · exact baseArch_enable accepted

theorem disable_disable (accepted : catalog.Accepted) (coherent : state.Coherent catalog) :
    (disable catalog id (disable catalog id state).state).state =
      (disable catalog id state).state := by
  apply eq_of_members
  · intro other
    rw [isOn_disable accepted (coherent.disable accepted id), isOn_disable accepted coherent,
      and_assoc, and_self]
  · intro other
    rw [isTouched_disable accepted (coherent.disable accepted id),
      isTouched_disable accepted coherent, or_assoc, or_self]
  · exact baseArch_disable accepted

end State

/-- From any state that is reached on ids of the catalog, enabling an extension succeeds and ends
with the least set of extensions that has the prerequisites of its members, everything that was
enabled, and the extension; it touches the extension and what it switched on. Disabling an extension
succeeds and ends with the greatest set that has the prerequisites of its members, is part of what
was enabled, and lacks the extension; it touches the extension alone. Neither changes the base
architecture, and neither does anything when it is repeated. -/
theorem decisions_change_least {catalog : ExtensionCatalog} (accepted : catalog.Accepted)
    {session : Session} (reachable : Reachable catalog session) {id : Nat}
    (known : id < catalog.size) :
    let before := session.state
    let raised := (session.enable id).state
    let lowered := (session.disable id).state
    ((session.enable id).failure = none ∧
      IsLeast {ids | catalog.ClosedSet ids ∧ before.onSet ⊆ ids ∧ id ∈ ids} raised.onSet ∧
      raised.touchedSet = before.touchedSet ∪ ({id} ∪ raised.onSet \ before.onSet) ∧
      raised.baseArch = before.baseArch ∧
      ((session.apply (.enable id)).enable id).state = raised) ∧
    ((session.disable id).failure = none ∧
      IsGreatest {ids | catalog.ClosedSet ids ∧ ids ⊆ before.onSet ∧ id ∉ ids} lowered.onSet ∧
      lowered.touchedSet = before.touchedSet ∪ {id} ∧
      lowered.baseArch = before.baseArch ∧
      ((session.apply (.disable id)).disable id).state = lowered) := by
  have regular := reachable.regular accepted
  have coherent := regular.coherent
  have sameCatalog := regular.catalog_eq
  subst sameCatalog
  simp only [apply, perform, enable, disable, onId_natCast]
  constructor
  · exact ⟨State.failure_enable_of_lt accepted known,
      State.isLeast_onSet_enable accepted coherent, State.touchedSet_enable accepted,
      State.baseArch_enable accepted, State.enable_enable accepted coherent⟩
  · exact ⟨State.failure_disable_of_lt accepted known,
      State.isGreatest_onSet_disable accepted coherent,
      State.touchedSet_disable accepted coherent,
      State.baseArch_disable accepted, State.disable_disable accepted coherent⟩

theorem decisions_change_least_small :
    let session := small.run [.archDefaults smallArchitecture]
    let before := session.state
    let raised := (session.enable 2).state
    let lowered := (session.disable 0).state
    session.state.enabled = 0b1011 ∧ ExtensionCatalog.small.Accepted ∧ Reachable .small session ∧
    2 < ExtensionCatalog.small.size ∧ 0 < ExtensionCatalog.small.size ∧
    ((session.enable 2).failure = none ∧
      IsLeast {ids | ExtensionCatalog.small.ClosedSet ids ∧ before.onSet ⊆ ids ∧ 2 ∈ ids}
        raised.onSet ∧
      raised.touchedSet = before.touchedSet ∪ ({2} ∪ raised.onSet \ before.onSet) ∧
      raised.baseArch = before.baseArch ∧
      ((session.apply (.enable 2)).enable 2).state = raised) ∧
    ((session.disable 0).failure = none ∧
      IsGreatest {ids | ExtensionCatalog.small.ClosedSet ids ∧ ids ⊆ before.onSet ∧ 0 ∉ ids}
        lowered.onSet ∧
      lowered.touchedSet = before.touchedSet ∪ {0} ∧
      lowered.baseArch = before.baseArch ∧
      ((session.apply (.disable 0)).disable 0).state = lowered) := by
  intro session before raised lowered
  have reachable : Reachable .small session :=
    ⟨"no-", small, [.archDefaults smallArchitecture], started_small, by decide, rfl⟩
  have enabled : session.state.enabled = 0b1011 := by cbv
  have first : 0 < ExtensionCatalog.small.size := by decide
  have third : 2 < ExtensionCatalog.small.size := by decide
  exact ⟨enabled, ExtensionCatalog.accepted_small, reachable, third, first,
    (decisions_change_least ExtensionCatalog.accepted_small reachable third).1,
    (decisions_change_least ExtensionCatalog.accepted_small reachable first).2⟩

end TargetFeatures.Session
