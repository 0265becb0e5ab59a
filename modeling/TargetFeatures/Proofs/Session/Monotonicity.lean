import TargetFeatures.Proofs.Session.Rearrangement

/-!
# Larger sets stay larger

The same operations amount to the same decisions in every session with the same negation prefix,
whatever was decided before. What they do to a set can therefore be said without the walks that two
sessions take from different states: an extension that was on stays on unless a decision disables
it, and what the decisions themselves leave on is on afterwards (`Reachable.isOn_run_iff`). Both
parts respect inclusion, so that of two sessions the one with more extensions keeps more of them,
and a decision more at some point in the past can be seen in the end in one direction only.
-/

namespace TargetFeatures.Session

variable {catalog : ExtensionCatalog} {session other : Session} {operations : List Operation}
  {id : Nat}

/-! ## What is left of the sets of a session -/

theorem Reachable.isOn_run_iff (reachable : Reachable catalog session) (accepted : catalog.Accepted)
    (onCatalog : ∀ operation ∈ operations, operation.OnCatalog catalog) :
    let decisions := operations.flatMap (Operation.decisions catalog session.negation)
    (session.run operations).state.IsOn id ↔
      (session.state.IsOn id ∧
        ∀ chosen, .disable chosen ∈ decisions → ¬catalog.Descendant chosen id) ∨
      Decision.StaysOn catalog decisions id := by
  intro decisions
  rcases reachable.exists_history accepted with ⟨history, described⟩
  have before := (described [] (by simp)).isOn id
  have after := (described operations onCatalog).isOn id
  rw [List.flatMap_nil, List.append_nil] at before
  rw [after, Decision.staysOn_append]
  simp only [run_nil] at before
  rw [before]

theorem Reachable.isTouched_run_iff (reachable : Reachable catalog session)
    (accepted : catalog.Accepted)
    (onCatalog : ∀ operation ∈ operations, operation.OnCatalog catalog) :
    (session.run operations).state.IsTouched id ↔
      session.state.IsTouched id ∨
        Decision.Concerns catalog
          (operations.flatMap (Operation.decisions catalog session.negation)) id := by
  rcases reachable.exists_history accepted with ⟨history, described⟩
  have before := (described [] (by simp)).isTouched id
  have after := (described operations onCatalog).isTouched id
  rw [List.flatMap_nil, List.append_nil] at before
  rw [after, Decision.concerns_append]
  simp only [run_nil] at before
  rw [before]

/-! ## Two sessions side by side -/

section

variable (reachable : Reachable catalog session) (otherReachable : Reachable catalog other)
  (accepted : catalog.Accepted) (negation : session.negation = other.negation)
  (onCatalog : ∀ operation ∈ operations, operation.OnCatalog catalog)

include reachable otherReachable accepted negation onCatalog

theorem Reachable.isOn_run_mono (within : ∀ id, session.state.IsOn id → other.state.IsOn id)
    (on : (session.run operations).state.IsOn id) : (other.run operations).state.IsOn id := by
  apply (otherReachable.isOn_run_iff accepted onCatalog).mpr
  rw [← negation]
  rcases (reachable.isOn_run_iff accepted onCatalog).mp on with ⟨old, undisturbed⟩ | stays
  · exact Or.inl ⟨within id old, undisturbed⟩
  · exact Or.inr stays

theorem Reachable.isTouched_run_mono
    (within : ∀ id, session.state.IsTouched id → other.state.IsTouched id)
    (touched : (session.run operations).state.IsTouched id) :
    (other.run operations).state.IsTouched id := by
  apply (otherReachable.isTouched_run_iff accepted onCatalog).mpr
  rw [← negation]
  rcases (reachable.isTouched_run_iff accepted onCatalog).mp touched with old | concerned
  · exact Or.inl (within id old)
  · exact Or.inr concerned

end

/-! ## One operation more -/

theorem Reachable.isOn_run_of_enables (reachable : Reachable catalog session)
    (accepted : catalog.Accepted) {extra : Operation} (onCatalog : extra.OnCatalog catalog)
    (enables : ∀ decision ∈ extra.decisions catalog session.negation, decision.enables = true)
    (on : session.state.IsOn id) : (session.run [extra]).state.IsOn id := by
  apply (reachable.isOn_run_iff accepted (List.forall_mem_singleton.mpr onCatalog)).mpr
  left
  refine ⟨on, fun chosen disables => ?_⟩
  rw [List.flatMap_singleton] at disables
  have impossible := enables _ disables
  simp [Decision.enables] at impossible

theorem Reachable.isOn_of_run_of_disables (reachable : Reachable catalog session)
    (accepted : catalog.Accepted) {extra : Operation} (onCatalog : extra.OnCatalog catalog)
    (disables : ∀ decision ∈ extra.decisions catalog session.negation, decision.enables = false)
    (on : (session.run [extra]).state.IsOn id) : session.state.IsOn id := by
  rcases (reachable.isOn_run_iff accepted (List.forall_mem_singleton.mpr onCatalog)).mp on with
    ⟨old, _⟩ | ⟨before, chosen, after, split, _⟩
  · exact old
  · rw [List.flatMap_singleton] at split
    have impossible := disables (.enable chosen) (by simp [split])
    simp [Decision.enables] at impossible

theorem run_insert (session : Session) (before after : List Operation) (extra : Operation) :
    session.run (before ++ extra :: after) = ((session.run before).run [extra]).run after := by
  rw [run_append]
  rfl

/-- Two sessions with the same negation prefix that were reached on ids of the catalog stay in the
same relation when the same operations are performed on both: if one has fewer extensions enabled,
or touched, than the other, so it has afterwards. An operation that is inserted anywhere in a
session can only enlarge the enabled set at the end when all it decides is to enable, can only
shrink it when all it decides is to disable, and can only enlarge the touched set in any case. -/
theorem resolution_is_monotone (accepted : catalog.Accepted)
    (reachable : Reachable catalog session) :
    (∀ other operations, Reachable catalog other → session.negation = other.negation →
      (∀ operation ∈ operations, operation.OnCatalog catalog) →
      let final := (session.run operations).state
      let otherFinal := (other.run operations).state
      (session.state.enabled &&& other.state.enabled = session.state.enabled →
        final.enabled &&& otherFinal.enabled = final.enabled) ∧
      (session.state.touched &&& other.state.touched = session.state.touched →
        final.touched &&& otherFinal.touched = final.touched)) ∧
    ∀ before extra after, (∀ operation ∈ before ++ extra :: after, operation.OnCatalog catalog) →
      let final := (session.run (before ++ after)).state
      let extended := (session.run (before ++ extra :: after)).state
      ((∀ decision ∈ extra.decisions catalog session.negation, decision.enables = true) →
        final.enabled &&& extended.enabled = final.enabled) ∧
      ((∀ decision ∈ extra.decisions catalog session.negation, decision.enables = false) →
        extended.enabled &&& final.enabled = extended.enabled) ∧
      final.touched &&& extended.touched = final.touched := by
  constructor
  · intro other operations otherReachable negation onCatalog
    constructor
    · intro within
      rw [Mask.and_eq_left_iff] at within ⊢
      intro id on
      exact reachable.isOn_run_mono otherReachable accepted negation onCatalog within on
    · intro within
      rw [Mask.and_eq_left_iff] at within ⊢
      intro id touched
      exact reachable.isTouched_run_mono otherReachable accepted negation onCatalog within touched
  · intro before extra after onCatalog
    rw [List.forall_mem_append, List.forall_mem_cons] at onCatalog
    rcases onCatalog with ⟨beforeOn, extraOn, afterOn⟩
    have plain := reachable.run beforeOn
    have longer := plain.run (List.forall_mem_singleton.mpr extraOn)
    have sameNegation : (session.run before).negation =
        ((session.run before).run [extra]).negation := by
      rw [negation_run (session.run before)]
    have kept : session.negation = (session.run before).negation := by rw [negation_run]
    rw [run_append, run_insert, kept]
    refine ⟨?_, ?_, ?_⟩
    · intro enables
      rw [Mask.and_eq_left_iff]
      intro id on
      apply plain.isOn_run_mono longer accepted sameNegation afterOn ?_ on
      intro id on
      exact plain.isOn_run_of_enables accepted extraOn enables on
    · intro disables
      rw [Mask.and_eq_left_iff]
      intro id on
      apply longer.isOn_run_mono plain accepted sameNegation.symm afterOn ?_ on
      intro id on
      exact plain.isOn_of_run_of_disables accepted extraOn disables on
    · rw [Mask.and_eq_left_iff]
      intro id touched
      apply plain.isTouched_run_mono longer accepted sameNegation afterOn ?_ touched
      intro id touched
      exact (plain.isTouched_run_iff accepted
        (List.forall_mem_singleton.mpr extraOn)).mpr (Or.inl touched)

theorem resolution_is_monotone_small :
    let session := small.run [.enable 0, .disable 3]
    let other := small.run [.archDefaults smallArchitecture]
    let operations : List Operation := [.modifier "no-simd", .modifier "no-such"]
    let final := (session.run operations).state
    let otherFinal := (other.run operations).state
    let plain := (other.run [.enable 2, .modifier "neon"]).state
    let lowered := (other.run [.enable 2, .disable 0, .modifier "neon"]).state
    let raised := (session.run [.modifier "sve", .disable 3]).state
    ((session.state.enabled = 0b0001 ∧ session.state.touched = 0b1001) ∧
      (other.state.enabled = 0b1011 ∧ other.state.touched = 0b1011) ∧
      ExtensionCatalog.small.Accepted ∧ Reachable .small session ∧ Reachable .small other) ∧
    final.enabled &&& otherFinal.enabled = final.enabled ∧
    final.touched &&& otherFinal.touched = final.touched ∧
    lowered.enabled &&& plain.enabled = lowered.enabled ∧
    plain.touched &&& lowered.touched = plain.touched ∧
    (session.run [.disable 3]).state.enabled &&& raised.enabled =
      (session.run [.disable 3]).state.enabled := by
  intro session other operations final otherFinal plain lowered raised
  have reachable : Reachable .small session :=
    ⟨"no-", small, [.enable 0, .disable 3], started_small, by decide, rfl⟩
  have otherReachable : Reachable .small other :=
    ⟨"no-", small, [.archDefaults smallArchitecture], started_small, by decide, rfl⟩
  have sets : session.state.enabled = 0b0001 ∧ session.state.touched = 0b1001 := by cbv
  have otherSets : other.state.enabled = 0b1011 ∧ other.state.touched = 0b1011 := by cbv
  rcases resolution_is_monotone ExtensionCatalog.accepted_small reachable with
    ⟨together, insertEarlier⟩
  rcases resolution_is_monotone ExtensionCatalog.accepted_small otherReachable with
    ⟨_, insertLater⟩
  rcases together other operations otherReachable rfl (by decide) with ⟨enabled, touched⟩
  rcases insertLater [.enable 2] (.disable 0) [.modifier "neon"] (by decide) with
    ⟨_, lowers, touches⟩
  rcases insertEarlier [] (.modifier "sve") [.disable 3] (by decide) with ⟨raises, _⟩
  refine ⟨⟨sets, otherSets, ExtensionCatalog.accepted_small, reachable, otherReachable⟩,
    enabled ?_, touched ?_, lowers ?_, touches, raises ?_⟩
  · rw [sets.1, otherSets.1]
    decide
  · rw [sets.2, otherSets.2]
    decide
  · decide
  · decide

end TargetFeatures.Session
