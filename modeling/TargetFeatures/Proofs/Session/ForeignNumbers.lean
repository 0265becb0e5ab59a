import TargetFeatures.Proofs.Session.Replay

/-!
# Decisions about numbers outside the catalog

A decision can be asked for with any number. A negative one is refused before anything changes. A
number beyond the catalog is marked in both sets before anyone asks which extension it is: it is
switched like an extension without neighbours, and the decision fails afterwards if it switched
anything (`enable_of_size_le`, `disable_of_size_le`). Decisions of both kinds leave the extensions
of the catalog alone. But the mark in the touched set stays, so that the session can never show its
feature list again, and it shows no enabled names before the number is disabled.

Whether a session is in this condition can be read off its calls, because the decisions that
describe the sets of a state may well be about numbers outside the catalog.
-/

namespace TargetFeatures.Session

/-! ## Decisions that do not matter -/

namespace Decision

variable {catalog : ExtensionCatalog} {decisions : List Decision} {relevant : Decision → Bool}
  {id : Nat}

section

variable (enables : ∀ chosen, catalog.Ancestor chosen id → relevant (enable chosen) = true)

include enables

/-- Decisions that concern no relative of an extension can be left out of its history. -/
theorem staysOn_filter
    (disables : ∀ chosen, catalog.Descendant chosen id → relevant (disable chosen) = true) :
    StaysOn catalog (decisions.filter relevant) id ↔ StaysOn catalog decisions id := by
  -- From the end, because a decision counts against all those before it.
  induction decisions using List.reverseRecOn with
  | nil => rfl
  | append_singleton rest last ih =>
      rw [List.filter_append, List.filter_singleton]
      cases kept : relevant last with
      | true =>
          rw [cond_true]
          cases last with
          | enable chosen => rw [staysOn_append_enable, staysOn_append_enable, ih]
          | disable chosen => rw [staysOn_append_disable, staysOn_append_disable, ih]
      | false =>
          rw [cond_false, List.append_nil, ih]
          cases last with
          | enable chosen =>
              have apart : ¬catalog.Ancestor chosen id := by
                intro reached
                rw [enables chosen reached] at kept
                cases kept
              rw [staysOn_append_enable, or_iff_left apart]
          | disable chosen =>
              have apart : ¬catalog.Descendant chosen id := by
                intro reached
                rw [disables chosen reached] at kept
                cases kept
              rw [staysOn_append_disable, and_iff_left apart]

theorem concerns_filter (itself : relevant (disable id) = true) :
    Concerns catalog (decisions.filter relevant) id ↔ Concerns catalog decisions id := by
  simp only [Concerns, List.mem_filter, itself, and_true]
  refine or_congr_left (exists_congr fun chosen => and_congr_left fun reached => ?_)
  exact and_iff_left (enables chosen reached)

end

section

variable (accepted : catalog.Accepted) (beyond : catalog.size ≤ id)

include accepted beyond

theorem eq_of_ancestor_beyond {chosen : Nat} (reached : catalog.Ancestor chosen id) :
    id = chosen := by
  refine accepted.eq_of_ancestor_of_size_le (Nat.not_lt.mp fun below => ?_) reached
  exact Nat.not_lt.mpr beyond ((accepted.lt_size_iff_of_ancestor reached).mp below)

/-- A number beyond the catalog stays on when it is not disabled after it was enabled. -/
theorem staysOn_beyond_iff :
    StaysOn catalog decisions id ↔
      ∃ before after, decisions = before ++ enable id :: after ∧ disable id ∉ after := by
  constructor
  · rintro ⟨before, chosen, after, split, reached, undisturbed⟩
    obtain rfl := eq_of_ancestor_beyond accepted beyond reached
    exact ⟨before, after, split, fun again => undisturbed id again Relation.ReflTransGen.refl⟩
  · rintro ⟨before, after, split, undisturbed⟩
    refine ⟨before, id, after, split, .refl id, fun other member reached => undisturbed ?_⟩
    have same := accepted.eq_of_ancestor_of_size_le beyond
      (ExtensionCatalog.descendant_iff_ancestor.mp reached)
    exact same ▸ member

theorem concerns_beyond_iff :
    Concerns catalog decisions id ↔ enable id ∈ decisions ∨ disable id ∈ decisions := by
  refine or_congr_left ⟨?_, fun member => ⟨id, member, .refl id⟩⟩
  rintro ⟨chosen, member, reached⟩
  rwa [eq_of_ancestor_beyond accepted beyond reached]

end

end Decision

/-! ## One decision about any number -/

namespace State

variable {catalog : ExtensionCatalog} {state : State} {id : Nat}

theorem switchOn_touch : (state.touch id).switchOn id = state.switchOn id := by
  apply eq_of_members
  · simp
  · simp
  · rfl

theorem switchOff_touch : (state.touch id).switchOff id = state.switchOff id := by
  apply eq_of_members
  · simp
  · simp
  · rfl

theorem touch_eq_switchOn (on : state.IsOn id) : state.touch id = state.switchOn id := by
  apply eq_of_members
  · intro other
    rw [isOn_touch, isOn_switchOn]
    exact (or_iff_left_of_imp fun same => same ▸ on).symm
  · simp
  · rfl

theorem touch_eq_switchOff (off : ¬state.IsOn id) : state.touch id = state.switchOff id := by
  apply eq_of_members
  · intro other
    rw [isOn_touch, isOn_switchOff]
    refine (and_iff_left_of_imp fun on same => off ?_).symm
    rwa [same] at on
  · simp
  · rfl

/-- Enabling a number beyond the catalog switches it on and fails if it was off. -/
theorem enable_of_size_le (beyond : catalog.size ≤ id) :
    enable catalog id state =
      ⟨state.switchOn id, [], if state.enabled.testBit id then none else some .unknown⟩ := by
  have missing : catalog.get? id = none := List.getElem?_eq_none beyond
  -- Touching comes first, but whether there is something to do depends on the enabled set only.
  by_cases on : state.enabled.testBit id = true
  · have stillOn : (state.touch id).enabled.testBit id = true := on
    rw [enable, enableAll, dif_pos stillOn, enableAll, Step.skip, touch_eq_switchOn on, if_pos on]
  · have stillOff : ¬(state.touch id).enabled.testBit id = true := on
    rw [enable, enableAll, dif_neg stillOff]
    split
    · rw [switchOn_touch, if_neg on]
    · next found =>
        rw [missing] at found
        cases found

/-- Disabling a number beyond the catalog switches it off and fails if it was on. -/
theorem disable_of_size_le (beyond : catalog.size ≤ id) :
    disable catalog id state =
      ⟨state.switchOff id, [], if state.enabled.testBit id then some .unknown else none⟩ := by
  have missing : catalog.get? id = none := List.getElem?_eq_none beyond
  by_cases on : state.enabled.testBit id = true
  · have stillOn : (state.touch id).enabled.testBit id = true := on
    rw [disable, disableAll, dif_pos stillOn]
    split
    · rw [switchOff_touch, if_pos on]
    · next found =>
        rw [missing] at found
        cases found
  · have stillOff : ¬(state.touch id).enabled.testBit id = true := on
    rw [disable, disableAll, dif_neg stillOff, disableAll, Step.skip, touch_eq_switchOff on,
      if_neg on]

end State

/-! ## Runs of decisions -/

namespace Operation

/-- Whether an operation is a decision about a number. -/
def IsDecision : Operation → Prop
  | .enable _ => True
  | .disable _ => True
  | _ => False

instance : DecidablePred IsDecision
  | .enable _ => inferInstanceAs (Decidable True)
  | .disable _ => inferInstanceAs (Decidable True)
  | .modifier _ => inferInstanceAs (Decidable False)
  | .archDefaults _ => inferInstanceAs (Decidable False)
  | .cpuDefaults _ => inferInstanceAs (Decidable False)

theorem IsDecision.base?_eq_none {call : Operation} (isDecision : call.IsDecision) :
    call.base? = none := by
  cases call with
  | enable id => rfl
  | disable id => rfl
  | modifier token => rfl
  | archDefaults architecture => cases isDecision
  | cpuDefaults processor => cases isDecision

/-- The decision that a call takes, which may be about a number beyond the catalog. A call with a
negative number takes none. -/
def taken? : Operation → Option Decision
  | .enable id => if id < 0 then none else some (.enable id.toNat)
  | .disable id => if id < 0 then none else some (.disable id.toNat)
  | _ => none

theorem taken?_eq_some_iff {call : Operation} {decision : Decision} :
    call.taken? = some decision ↔ call = decision.operation := by
  constructor
  · intro taken
    cases call with
    | enable id =>
        rw [taken?, Option.ite_none_left_eq_some, Option.some.injEq] at taken
        rw [← taken.2, Decision.operation, Int.toNat_of_nonneg (Int.not_lt.mp taken.1)]
    | disable id =>
        rw [taken?, Option.ite_none_left_eq_some, Option.some.injEq] at taken
        rw [← taken.2, Decision.operation, Int.toNat_of_nonneg (Int.not_lt.mp taken.1)]
    | modifier token => cases taken
    | archDefaults architecture => cases taken
    | cpuDefaults processor => cases taken
  · rintro rfl
    cases decision <;> simp [Decision.operation, taken?]

theorem mem_taken_iff {calls : List Operation} {decision : Decision} :
    decision ∈ calls.filterMap taken? ↔ decision.operation ∈ calls := by
  simp only [List.mem_filterMap, taken?_eq_some_iff, exists_eq_right]

theorem onCatalog_operation_iff {catalog : ExtensionCatalog} {decision : Decision} :
    decision.operation.OnCatalog catalog ↔ decision.subject < catalog.size := by
  refine ⟨fun onCatalog => ?_, Decision.onCatalog_operation⟩
  cases decision <;> exact Int.ofNat_lt.mp onCatalog.2

/-- The decisions that are left when the calls about other numbers are left out. -/
theorem taken_filter_onCatalog {catalog : ExtensionCatalog} {calls : List Operation} :
    (calls.filter (·.OnCatalog catalog)).filterMap taken? =
      (calls.filterMap taken?).filter (·.subject < catalog.size) := by
  rw [List.filterMap_filter, List.filter_filterMap]
  refine List.filterMap_congr fun call _ => ?_
  cases taken : call.taken? with
  | none => exact ite_self none
  | some decision =>
      obtain rfl := taken?_eq_some_iff.mp taken
      simp only [onCatalog_operation_iff, Option.filter_some]

/-- What stays on beyond the catalog, said about the calls: a number that was enabled and not
disabled afterwards. -/
theorem staysOn_taken_iff {catalog : ExtensionCatalog} (accepted : catalog.Accepted) {id : Nat}
    (beyond : catalog.size ≤ id) {calls : List Operation} :
    Decision.StaysOn catalog (calls.filterMap taken?) id ↔
      ∃ before after, calls = before ++ .enable id :: after ∧ .disable id ∉ after := by
  rw [Decision.staysOn_beyond_iff accepted beyond]
  constructor
  · rintro ⟨before, after, split, undisturbed⟩
    -- Between the decisions before and this one there may be calls with negative numbers.
    rcases List.filterMap_eq_append_iff.mp split with ⟨earlier, later, rfl, _, rest⟩
    rcases List.filterMap_eq_cons_iff.mp rest with ⟨refused, call, last, rfl, _, taken, rfl⟩
    obtain rfl := taken?_eq_some_iff.mp taken
    refine ⟨earlier ++ refused, last, ?_, fun again => undisturbed (mem_taken_iff.mpr again)⟩
    rw [List.append_assoc]
    rfl
  · rintro ⟨before, after, rfl, undisturbed⟩
    refine ⟨before.filterMap taken?, after.filterMap taken?, ?_,
      fun again => undisturbed (mem_taken_iff.mp again)⟩
    have taken : taken? (.enable id) = some (.enable id) := taken?_eq_some_iff.mpr rfl
    rw [List.filterMap_append, List.filterMap_cons_some taken]

theorem concerns_taken_iff {catalog : ExtensionCatalog} (accepted : catalog.Accepted) {id : Nat}
    (beyond : catalog.size ≤ id) {calls : List Operation} :
    Decision.Concerns catalog (calls.filterMap taken?) id ↔
      .enable id ∈ calls ∨ .disable id ∈ calls := by
  rw [Decision.concerns_beyond_iff accepted beyond, mem_taken_iff, mem_taken_iff]
  rfl

end Operation

section

variable {session : Session} {decisions : List Decision}

theorem reflects_perform_decision (accepted : session.catalog.Accepted)
    (reflects : session.state.Reflects session.catalog decisions) {call : Operation}
    (isDecision : call.IsDecision) :
    (session.perform call).state.Reflects session.catalog (decisions ++ call.taken?.toList) := by
  cases call with
  | enable id =>
      rw [perform, enable, onId, Operation.taken?]
      split
      · simpa using reflects
      · exact reflects.enable accepted id.toNat
  | disable id =>
      rw [perform, disable, onId, Operation.taken?]
      split
      · simpa using reflects
      · exact reflects.disable accepted id.toNat
  | modifier token => cases isDecision
  | archDefaults architecture => cases isDecision
  | cpuDefaults processor => cases isDecision

theorem reflects_run_decisions (accepted : session.catalog.Accepted)
    (reflects : session.state.Reflects session.catalog decisions) {calls : List Operation}
    (areDecisions : ∀ call ∈ calls, call.IsDecision) :
    (session.run calls).state.Reflects session.catalog
      (decisions ++ calls.filterMap Operation.taken?) := by
  induction calls generalizing session decisions with
  | nil => simpa using reflects
  | cons call rest ih =>
      rw [List.forall_mem_cons] at areDecisions
      have kept : (session.apply call).catalog.Accepted := accepted
      have next := ih kept (reflects_perform_decision accepted reflects areDecisions.1)
        areDecisions.2
      have split : (call :: rest).filterMap Operation.taken? =
          call.taken?.toList ++ rest.filterMap Operation.taken? := by
        rw [List.filterMap_cons]
        cases call.taken? <;> rfl
      rw [split, ← List.append_assoc]
      exact next

end

theorem reflects_decisions_of_start? {catalog : ExtensionCatalog} (accepted : catalog.Accepted)
    {negation : String} {fresh : Session} (started : start? catalog negation = some fresh)
    {calls : List Operation} (areDecisions : ∀ call ∈ calls, call.IsDecision) :
    (fresh.run calls).state.Reflects catalog (calls.filterMap Operation.taken?) := by
  obtain rfl := eq_of_start? started
  exact @reflects_run_decisions ⟨catalog, negation, .start⟩ [] accepted State.reflects_start calls
    areDecisions

/-! ## What a session with such calls shows -/

section

variable {session : Session} {catalog : ExtensionCatalog}

theorem exists_featureList?_iff (same : session.catalog = catalog) :
    (∃ tokens, session.featureList? = some tokens) ↔
      ∀ id, session.state.IsTouched id → id < catalog.size := by
  rw [← Option.isSome_iff_exists, featureList?, Option.isSome_ite, Mask.isBelow_iff, same]
  rfl

theorem exists_enabledNames?_iff (same : session.catalog = catalog) :
    (∃ names, session.enabledNames? = some names) ↔
      ∀ id, session.state.IsOn id → id < catalog.size := by
  rw [← Option.isSome_iff_exists, enabledNames?, ExtensionCatalog.names?, Option.isSome_map,
    ExtensionCatalog.members?, Option.isSome_ite, Mask.isBelow_iff, same]
  rfl

end

/-- What decisions about any numbers leave behind. A negative number is refused and nothing changes.
A number beyond the catalog is switched all the same, and the decision fails if that changed the
enabled set. The extensions of the catalog are enabled and touched as if only the decisions about
them had been taken, and there is no base architecture. The session shows its feature list exactly
when no decision was about a number beyond the catalog, and its enabled names exactly when each such
number was disabled after it was last enabled. -/
theorem foreign_numbers_leave_marks {catalog : ExtensionCatalog} (accepted : catalog.Accepted)
    {negation : String} {fresh : Session} (started : start? catalog negation = some fresh)
    {calls : List Operation} (areDecisions : ∀ call ∈ calls, call.IsDecision) :
    let session := fresh.run calls
    let within := fresh.run (calls.filter (·.OnCatalog catalog))
    (∀ id < 0, session.enable id = ⟨session.state, [], some .negative⟩ ∧
      session.disable id = ⟨session.state, [], some .negative⟩) ∧
    (∀ id : Nat, catalog.size ≤ id →
      session.enable id = ⟨session.state.switchOn id, [],
        if session.state.enabled.testBit id then none else some .unknown⟩ ∧
      session.disable id = ⟨session.state.switchOff id, [],
        if session.state.enabled.testBit id then some .unknown else none⟩) ∧
    (∀ id < catalog.size, (session.state.IsOn id ↔ within.state.IsOn id) ∧
      (session.state.IsTouched id ↔ within.state.IsTouched id)) ∧
    session.state.baseArch = none ∧
    ((∃ tokens, session.featureList? = some tokens) ↔
      ∀ id : Nat, catalog.size ≤ id → .enable id ∉ calls ∧ .disable id ∉ calls) ∧
    ((∃ names, session.enabledNames? = some names) ↔
      ∀ id : Nat, catalog.size ≤ id → ∀ before after, calls = before ++ .enable id :: after →
        .disable id ∈ after) := by
  intro session within
  obtain rfl := eq_of_start? started
  have same : session.catalog = catalog := catalog_run _ _
  have reflects : session.state.Reflects catalog (calls.filterMap Operation.taken?) :=
    reflects_decisions_of_start? accepted started areDecisions
  have reflectsWithin : within.state.Reflects catalog
      ((calls.filterMap Operation.taken?).filter (·.subject < catalog.size)) := by
    rw [← Operation.taken_filter_onCatalog]
    exact reflects_decisions_of_start? accepted started fun call member =>
      areDecisions call (List.mem_of_mem_filter member)
  refine ⟨fun id negative => ⟨if_pos negative, if_pos negative⟩, fun id beyond => ⟨?_, ?_⟩,
    fun id below => ⟨?_, ?_⟩, ?_, ?_, ?_⟩
  · rw [enable, onId_natCast]
    exact State.enable_of_size_le (same ▸ beyond)
  · rw [disable, onId_natCast]
    exact State.disable_of_size_le (same ▸ beyond)
  · rw [reflects.isOn, reflectsWithin.isOn, Decision.staysOn_filter]
    · intro chosen reached
      exact decide_eq_true ((accepted.lt_size_iff_of_ancestor reached).mpr below)
    · intro chosen reached
      have raised := ExtensionCatalog.descendant_iff_ancestor.mp reached
      exact decide_eq_true (accepted.ancestor_lt_size below raised)
  · rw [reflects.isTouched, reflectsWithin.isTouched, Decision.concerns_filter]
    · intro chosen reached
      exact decide_eq_true ((accepted.lt_size_iff_of_ancestor reached).mpr below)
    · exact decide_eq_true below
  · have unbased : calls.filterMap Operation.base? = [] :=
      List.filterMap_eq_nil_iff.mpr fun call member => (areDecisions call member).base?_eq_none
    rw [baseArch_run accepted, unbased]
    rfl
  · rw [exists_featureList?_iff same]
    refine forall_congr' fun id => ?_
    rw [reflects.isTouched, ← not_le, imp_not_comm]
    refine imp_congr_right fun beyond => ?_
    rw [Operation.concerns_taken_iff accepted beyond, not_or]
  · rw [exists_enabledNames?_iff same]
    refine forall_congr' fun id => ?_
    rw [reflects.isOn, ← not_le, imp_not_comm]
    refine imp_congr_right fun beyond => ?_
    rw [Operation.staysOn_taken_iff accepted beyond]
    simp only [not_exists, not_and, not_not]

/-- The number 7 stays enabled, and 9 is disabled again. -/
theorem foreign_numbers_leave_marks_small :
    let calls : List Operation := [.enable 1, .enable 7, .enable (-1), .disable 2, .enable 9,
      .disable 9]
    let session := small.run calls
    ExtensionCatalog.small.Accepted ∧ start? .small "no-" = some small ∧
    (∀ call ∈ calls, call.IsDecision) ∧
    session.state = ⟨0b10000011, 0b1010000111, none⟩ ∧
    session.disable (-1) = ⟨session.state, [], some .negative⟩ ∧
    session.enable 9 = ⟨session.state.switchOn 9, [], some .unknown⟩ ∧
    (¬∃ tokens, session.featureList? = some tokens) ∧
    ¬∃ names, session.enabledNames? = some names := by
  intro calls session
  have accepted := ExtensionCatalog.accepted_small
  have areDecisions : ∀ call ∈ calls, call.IsDecision := by decide
  have state : session.state = ⟨0b10000011, 0b1010000111, none⟩ := by
    subst session calls
    cbv
  rcases foreign_numbers_leave_marks accepted started_small areDecisions with
    ⟨negative, beyond, _, _, features, names⟩
  have off : session.state.enabled.testBit 9 = false := by
    rw [state]
    rfl
  refine ⟨accepted, started_small, areDecisions, state, (negative (-1) (by decide)).2, ?_, ?_, ?_⟩
  · have unknown := (beyond 9 (by decide)).1
    rwa [if_neg (Bool.eq_false_iff.mp off)] at unknown
  · rw [features]
    exact fun absent => (absent 7 (by decide)).1 (by decide)
  · rw [names]
    intro disabled
    have again := disabled 7 (by decide) [.enable 1] _ rfl
    revert again
    decide

/-- Enabling the first number beyond the catalog fails, and the session shows nothing any more. -/
theorem foreign_number_hides_features :
    small.featureList? = some [] ∧ small.enabledNames? = some [] ∧
      small.enable 4 = ⟨⟨0b10000, 0b10000, none⟩, [], some .unknown⟩ ∧
      (small.run [.enable 4]).featureList? = none ∧
      (small.run [.enable 4]).enabledNames? = none := by
  have marked : small.enable 4 = ⟨⟨0b10000, 0b10000, none⟩, [], some .unknown⟩ :=
    State.enable_of_size_le (Nat.le_refl 4)
  have after : small.run [.enable 4] = { small with state := ⟨0b10000, 0b10000, none⟩ } := by
    rw [run_cons, apply, perform, marked]
    rfl
  rw [after]
  exact ⟨by decide, by decide, marked, by decide, by decide⟩

end TargetFeatures.Session
