import TargetFeatures.Proofs.Session.Run

/-!
# What holds throughout a session

After any operations on an accepted catalog, failing ones included, the enabled extensions have
their prerequisites enabled, they are among the touched ones, and no touched extension is ever
forgotten. A failing operation stops between two decisions or after switching a number outside the
catalog, and at both points nothing is missing.
-/

namespace TargetFeatures.Session

variable {session : Session}

theorem coherent_run (accepted : session.catalog.Accepted) (operations : List Operation)
    (coherent : session.state.Coherent session.catalog) :
    (session.run operations).state.Coherent session.catalog := by
  apply run_preserves fun state => state.Coherent session.catalog
  · exact fun id state holds => holds.enable accepted id
  · exact fun id state holds => holds.disable accepted id
  · exact fun _ _ holds => ⟨holds.closed, holds.touched⟩
  · exact coherent

theorem isTouched_run (accepted : session.catalog.Accepted) (operations : List Operation) {id : Nat}
    (touched : session.state.IsTouched id) : (session.run operations).state.IsTouched id := by
  apply run_preserves fun state => state.IsTouched id
  · exact fun _ _ holds => holds.enable accepted
  · exact fun _ _ holds => holds.disable accepted
  · exact fun _ _ holds => holds
  · exact touched

/-- At every point of every session, whatever fails on the way: an extension that is enabled has its
prerequisites enabled, one that is disabled has its dependents disabled, the enabled set is part of
the touched set, and the touched set has grown since every earlier point. -/
theorem closure_throughout_run {catalog : ExtensionCatalog} (accepted : catalog.Accepted)
    {negation : String} {fresh : Session} (started : start? catalog negation = some fresh)
    (earlier later : List Operation) :
    let before := (fresh.run earlier).state
    let after := (fresh.run (earlier ++ later)).state
    (∀ id prerequisite, prerequisite ∈ catalog.prerequisites id →
      after.IsOn id → after.IsOn prerequisite) ∧
    (∀ id dependent, dependent ∈ catalog.dependents id → ¬after.IsOn id → ¬after.IsOn dependent) ∧
    after.enabled &&& after.touched = after.enabled ∧
    before.touched &&& after.touched = before.touched := by
  have same := eq_of_start? started
  have acceptedHere : fresh.catalog.Accepted := by rwa [same]
  have coherent : (fresh.run (earlier ++ later)).state.Coherent catalog := by
    have fromStart := coherent_run acceptedHere (earlier ++ later) (by
      rw [same]
      exact State.coherent_start)
    rwa [same] at fromStart ⊢
  refine ⟨?_, ?_, ?_, ?_⟩
  · exact fun id prerequisite required on => coherent.closed id on prerequisite required
  · intro id dependent required off on
    exact off (coherent.closed dependent on id (ExtensionCatalog.mem_prerequisites.mpr
      (ExtensionCatalog.mem_dependents.mp required)))
  · exact Mask.and_eq_left_iff.mpr coherent.touched
  · rw [run_append]
    have kept : (fresh.run earlier).catalog.Accepted := by rwa [catalog_run]
    exact Mask.and_eq_left_iff.mpr fun id touched => isTouched_run kept later touched

theorem closure_throughout_run_small :
    let earlier : List Operation := [.enable 2, .enable 5, .disable (-1), .disable 1]
    let later : List Operation :=
      [.archDefaults { smallArchitecture with defaults := -3 }, .disable 12, .modifier "neon"]
    let before := (small.run earlier).state
    let after := (small.run (earlier ++ later)).state
    (before.enabled = 0b100001 ∧ before.touched = 0b100111) ∧
    ExtensionCatalog.small.Accepted ∧ start? .small "no-" = some small ∧
    (∀ id prerequisite, prerequisite ∈ ExtensionCatalog.small.prerequisites id →
      after.IsOn id → after.IsOn prerequisite) ∧
    (∀ id dependent, dependent ∈ ExtensionCatalog.small.dependents id →
      ¬after.IsOn id → ¬after.IsOn dependent) ∧
    after.enabled &&& after.touched = after.enabled ∧
    before.touched &&& after.touched = before.touched := by
  refine ⟨?_, ExtensionCatalog.accepted_small, started_small, ?_⟩
  · cbv
  · exact closure_throughout_run ExtensionCatalog.accepted_small started_small
      [.enable 2, .enable 5, .disable (-1), .disable 1]
      [.archDefaults { smallArchitecture with defaults := -3 }, .disable 12, .modifier "neon"]

end TargetFeatures.Session
