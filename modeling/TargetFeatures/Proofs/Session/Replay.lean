import TargetFeatures.Proofs.Session.LastDecision

/-!
# Replaying a feature list

The feature list of a session shows one decision for each touched extension: to enable it when it is
enabled, and to disable it otherwise. Enabled extensions have their prerequisites enabled, so none
of these decisions undoes or adds to another one. A fresh session that takes them in any order ends
with the same sets, and when the tokens of the catalog are distinct the list determines the sets.
-/

namespace TargetFeatures.Session

namespace Decision

/-- The extension that a decision is about. -/
def subject : Decision → Nat
  | .enable id => id
  | .disable id => id

def enables : Decision → Bool
  | .enable _ => true
  | .disable _ => false

/-- The token that shows a decision in a feature list. -/
def token? (catalog : ExtensionCatalog) : Decision → Option String
  | .enable id => (catalog.get? id).map Extension.feature
  | .disable id => (catalog.get? id).map Extension.negFeature

/-- The operation that takes a decision. -/
def operation : Decision → Operation
  | .enable id => .enable id
  | .disable id => .disable id

theorem decisions_operation (catalog : ExtensionCatalog) (negation : String) (decision : Decision) :
    decision.operation.decisions catalog negation = [decision] := by
  cases decision <;> rfl

theorem onCatalog_operation {catalog : ExtensionCatalog} {decision : Decision}
    (below : decision.subject < catalog.size) : decision.operation.OnCatalog catalog := by
  cases decision <;> exact ⟨Int.natCast_nonneg _, Int.ofNat_lt.mpr below⟩

theorem onCatalog_operations {catalog : ExtensionCatalog} {decisions : List Decision}
    (below : ∀ decision ∈ decisions, decision.subject < catalog.size) :
    ∀ operation ∈ decisions.map Decision.operation, operation.OnCatalog catalog := by
  intro operation member
  rcases List.mem_map.mp member with ⟨decision, listed, rfl⟩
  exact onCatalog_operation (below decision listed)

theorem map_some_tokens {catalog : ExtensionCatalog} {decisions : List Decision}
    (below : ∀ decision ∈ decisions, decision.subject < catalog.size) :
    (decisions.filterMap (token? catalog)).map some =
      decisions.map (token? catalog) := by
  rw [List.map_filterMap_some_eq_filter_map_isSome, List.filter_eq_self]
  intro token member
  rcases List.mem_map.mp member with ⟨decision, listed, rfl⟩
  have found : (catalog.get? decision.subject).isSome := by
    rw [ExtensionCatalog.get?, isSome_getElem?]
    exact below decision listed
  cases decision <;> rwa [token?, Option.isSome_map]

end Decision

/-- The decisions that the feature list of a session shows, in the order of the catalog. -/
def listed (session : Session) : List Decision :=
  (Mask.idsBelow session.catalog.size session.state.touched).map fun id =>
    if session.state.enabled.testBit id then .enable id else .disable id

/-! ## Where a session on ids of the catalog can get -/

theorem Operation.lt_size_of_mem_decisions {catalog : ExtensionCatalog} {negation : String}
    {operation : Operation} (onCatalog : operation.OnCatalog catalog) {decision : Decision}
    (member : decision ∈ operation.decisions catalog negation) :
    decision.subject < catalog.size := by
  cases operation with
  | enable id =>
      rw [decisions, List.mem_singleton] at member
      subst member
      exact (Int.toNat_lt onCatalog.1).mpr onCatalog.2
  | disable id =>
      rw [decisions, List.mem_singleton] at member
      subst member
      exact (Int.toNat_lt onCatalog.1).mpr onCatalog.2
  | modifier token =>
      rw [decisions] at member
      dsimp only at member
      split at member
      · cases member
      · next parsed =>
          rw [List.mem_singleton] at member
          subst member
          split <;> exact ExtensionCatalog.lt_size_of_find? parsed
  | archDefaults architecture =>
      rcases List.mem_map.mp member with ⟨id, listed, rfl⟩
      exact (Mask.mem_idsBelow.mp listed).1
  | cpuDefaults processor =>
      rcases List.mem_map.mp member with ⟨id, listed, rfl⟩
      exact (Mask.mem_idsBelow.mp listed).1

/-- What holds of every session that is reached on ids of the catalog. -/
structure Regular (catalog : ExtensionCatalog) (session : Session) : Prop where
  catalog_eq : session.catalog = catalog
  coherent : session.state.Coherent catalog
  below : ∀ id, session.state.IsTouched id → id < catalog.size

theorem Reachable.regular {catalog : ExtensionCatalog} {session : Session}
    (reachable : Reachable catalog session) (accepted : catalog.Accepted) :
    session.Regular catalog := by
  rcases reachable with ⟨negation, started, operations, start, onCatalog, rfl⟩
  have reflects := reflects_run_of_start? accepted start onCatalog
  have onSize : ∀ decision ∈ operations.flatMap (Operation.decisions catalog negation),
      decision.subject < catalog.size := by
    intro decision member
    rcases List.mem_flatMap.mp member with ⟨operation, listed, origin⟩
    exact Operation.lt_size_of_mem_decisions (onCatalog operation listed) origin
  refine ⟨by rw [catalog_run, eq_of_start? start], reflects.coherent, fun id touched => ?_⟩
  rcases (reflects.isTouched id).mp touched with ⟨chosen, member, reached⟩ | member
  · exact accepted.ancestor_lt_size (onSize _ member) reached
  · exact onSize _ member

namespace Regular

variable {catalog : ExtensionCatalog} {session : Session}

theorem mem_ids (regular : session.Regular catalog) {id : Nat} :
    id ∈ Mask.idsBelow session.catalog.size session.state.touched ↔ session.state.IsTouched id := by
  rw [Mask.mem_idsBelow, regular.catalog_eq, Mask.contains_natCast]
  exact and_iff_right_of_imp (regular.below id)

theorem enable_mem_listed (regular : session.Regular catalog) {id : Nat} :
    .enable id ∈ session.listed ↔ session.state.IsOn id := by
  rw [listed, List.mem_map]
  constructor
  · rintro ⟨other, _, shown⟩
    split at shown
    · next on => exact Decision.enable.inj shown ▸ on
    · cases shown
  · intro on
    exact ⟨id, regular.mem_ids.mpr (regular.coherent.touched id on), if_pos on⟩

theorem disable_mem_listed (regular : session.Regular catalog) {id : Nat} :
    .disable id ∈ session.listed ↔ session.state.IsTouched id ∧ ¬session.state.IsOn id := by
  rw [listed, List.mem_map]
  constructor
  · rintro ⟨other, member, shown⟩
    split at shown
    · cases shown
    · next off =>
        rw [Decision.disable.injEq] at shown
        subst shown
        exact ⟨regular.mem_ids.mp member, off⟩
  · rintro ⟨touched, off⟩
    exact ⟨id, regular.mem_ids.mpr touched, if_neg off⟩

theorem map_subject_listed (session : Session) : session.listed.map Decision.subject =
    Mask.idsBelow session.catalog.size session.state.touched := by
  rw [listed, List.map_map]
  conv => rhs; rw [← List.map_id (Mask.idsBelow _ _)]
  refine List.map_congr_left fun id _ => ?_
  dsimp only [Function.comp]
  split <;> rfl

theorem lt_size_of_mem_listed (regular : session.Regular catalog) {decision : Decision}
    (member : decision ∈ session.listed) : decision.subject < catalog.size := by
  have known := List.mem_map_of_mem (f := Decision.subject) member
  rw [map_subject_listed] at known
  exact regular.below _ (regular.mem_ids.mp known)

theorem isBelow_touched (regular : session.Regular catalog) :
    Mask.isBelow catalog.size session.state.touched = true :=
  Mask.isBelow_iff.mpr regular.below

theorem isBelow_enabled (regular : session.Regular catalog) :
    Mask.isBelow catalog.size session.state.enabled = true := by
  rw [Mask.isBelow_iff]
  exact fun id on => regular.below id (regular.coherent.touched id on)

/-! ## What the feature list shows -/

theorem featureList?_eq (regular : session.Regular catalog) :
    session.featureList? = some (session.listed.filterMap (Decision.token? catalog)) := by
  rw [featureList?, listed, List.filterMap_map, regular.catalog_eq, if_pos regular.isBelow_touched]
  congr 2
  funext id
  rw [featureToken, regular.catalog_eq, Function.comp_apply]
  split <;> rfl

/-- The enabled extensions are those that the listed decisions enable. -/
theorem filter_enables_listed (regular : session.Regular catalog) :
    session.listed.filter Decision.enables =
      (Mask.idsBelow catalog.size session.state.enabled).map .enable := by
  have kept : (Mask.idsBelow catalog.size session.state.touched).filter
      (Decision.enables ∘ fun id =>
        if session.state.enabled.testBit id then .enable id else .disable id) =
      Mask.idsBelow catalog.size session.state.enabled := by
    rw [Mask.idsBelow, List.filter_filter, Mask.idsBelow]
    refine List.filter_congr fun id _ => ?_
    rw [Function.comp_apply, Mask.contains_natCast, Mask.contains_natCast]
    cases on : session.state.enabled.testBit id with
    | true =>
        have touched : session.state.touched.testBit id = true := regular.coherent.touched id on
        simp [touched, Decision.enables]
    | false => rfl
  rw [listed, regular.catalog_eq, List.filter_map, kept]
  exact List.map_congr_left fun id member => if_pos (Mask.mem_idsBelow.mp member).2

theorem features?_eq (regular : session.Regular catalog) :
    catalog.features? session.state.enabled =
      some ((session.listed.filter Decision.enables).filterMap (Decision.token? catalog)) := by
  rw [ExtensionCatalog.features?, ExtensionCatalog.members?, if_pos regular.isBelow_enabled,
    regular.filter_enables_listed, Option.map_some, List.map_filterMap, List.filterMap_map]
  rfl

/-! ## Taking the decisions again -/

theorem staysOn_iff (regular : session.Regular catalog) {order : List Decision}
    (perm : order.Perm session.listed) {id : Nat} :
    Decision.StaysOn catalog order id ↔ session.state.IsOn id := by
  constructor
  · rintro ⟨before, chosen, after, rfl, reached, _⟩
    have listed := perm.mem_iff.mp (List.mem_append_right before List.mem_cons_self)
    exact regular.coherent.closed.isOn_of_ancestor (regular.enable_mem_listed.mp listed) reached
  · intro on
    have member := perm.mem_iff.mpr (regular.enable_mem_listed.mpr on)
    rcases List.append_of_mem member with ⟨before, after, rfl⟩
    refine ⟨before, id, after, rfl, .refl id, fun other later reached => ?_⟩
    have listed := perm.mem_iff.mp
      (List.mem_append_right before (List.mem_cons_of_mem (.enable id) later))
    -- What is disabled is off, and what depends on it is off as well.
    exact (regular.disable_mem_listed.mp listed).2
      (regular.coherent.closed.isOn_of_ancestor on
        (ExtensionCatalog.descendant_iff_ancestor.mp reached))

theorem concerns_iff (regular : session.Regular catalog) {order : List Decision}
    (perm : order.Perm session.listed) {id : Nat} :
    Decision.Concerns catalog order id ↔ session.state.IsTouched id := by
  simp only [Decision.Concerns, perm.mem_iff, regular.enable_mem_listed, regular.disable_mem_listed]
  constructor
  · rintro (⟨chosen, on, reached⟩ | ⟨touched, _⟩)
    · exact regular.coherent.touched id (regular.coherent.closed.isOn_of_ancestor on reached)
    · exact touched
  · intro touched
    by_cases on : session.state.IsOn id
    · exact Or.inl ⟨id, on, .refl id⟩
    · exact Or.inr ⟨touched, on⟩

end Regular

/-- The session after the decisions of a list were taken. -/
def replay (fresh : Session) (order : List Decision) : Session :=
  fresh.run (order.map Decision.operation)

theorem featureList?_congr {left right : Session} (catalog : left.catalog = right.catalog)
    (enabled : left.state.enabled = right.state.enabled)
    (touched : left.state.touched = right.state.touched) :
    left.featureList? = right.featureList? := by
  have token : left.featureToken = right.featureToken := by
    funext id
    rw [featureToken, featureToken, catalog, enabled]
  rw [featureList?, featureList?, catalog, touched, token]

theorem Regular.onCatalog_operation {catalog : ExtensionCatalog} {session : Session}
    (regular : session.Regular catalog) {order : List Decision} (perm : order.Perm session.listed) :
    ∀ operation ∈ order.map Decision.operation, operation.OnCatalog catalog := by
  apply Decision.onCatalog_operations
  exact fun decision member => regular.lt_size_of_mem_listed (perm.mem_iff.mp member)

theorem Regular.replay {catalog : ExtensionCatalog} {session : Session}
    (regular : session.Regular catalog) (accepted : catalog.Accepted) {negation : String}
    {fresh : Session} (started : start? catalog negation = some fresh) {order : List Decision}
    (perm : order.Perm session.listed) :
    (fresh.replay order).state.enabled = session.state.enabled ∧
      (fresh.replay order).state.touched = session.state.touched ∧
      (fresh.replay order).featureList? = session.featureList? := by
  have reflects := reflects_run_of_start? accepted started (regular.onCatalog_operation perm)
  simp only [List.flatMap_map, Decision.decisions_operation, List.flatMap_singleton'] at reflects
  have enabled : (fresh.replay order).state.enabled = session.state.enabled :=
    Mask.eq_iff.mpr fun id => (reflects.isOn id).trans (regular.staysOn_iff perm)
  have touched : (fresh.replay order).state.touched = session.state.touched :=
    Mask.eq_iff.mpr fun id => (reflects.isTouched id).trans (regular.concerns_iff perm)
  have sameCatalog : (fresh.replay order).catalog = session.catalog := by
    rw [Session.replay, catalog_run, eq_of_start? started, regular.catalog_eq]
  exact ⟨enabled, touched, featureList?_congr sameCatalog enabled touched⟩

theorem Regular.failure_replay {catalog : ExtensionCatalog} {session : Session}
    (regular : session.Regular catalog) (accepted : catalog.Accepted) {negation : String}
    {fresh : Session} (started : start? catalog negation = some fresh)
    {before after : List Decision} {decision : Decision}
    (perm : (before ++ decision :: after).Perm session.listed) :
    ((fresh.replay before).perform decision.operation).failure = none := by
  have onCatalog := regular.onCatalog_operation perm
  rw [List.map_append, List.map_cons] at onCatalog
  exact failure_perform_run accepted started onCatalog

/-! ## Reading the sets off the list -/

/-- All tokens of a catalog: those that enable first, then those that disable. -/
def allTokens (catalog : ExtensionCatalog) : List String :=
  catalog.extensions.map Extension.feature ++ catalog.extensions.map Extension.negFeature

/-- The position of the token of a decision among all tokens. -/
def Decision.position (catalog : ExtensionCatalog) : Decision → Nat
  | .enable id => id
  | .disable id => catalog.size + id

theorem Decision.token?_eq {catalog : ExtensionCatalog} {decision : Decision}
    (below : decision.subject < catalog.size) :
    decision.token? catalog = (allTokens catalog)[decision.position catalog]? := by
  cases decision with
  | enable id =>
      have left : id < (catalog.extensions.map Extension.feature).length := by
        rw [List.length_map]
        exact below
      rw [token?, position, allTokens, List.getElem?_append_left left, List.getElem?_map,
        ExtensionCatalog.get?]
  | disable id =>
      have right : (catalog.extensions.map Extension.feature).length ≤ catalog.size + id := by
        simp [ExtensionCatalog.size]
      rw [token?, position, allTokens, List.getElem?_append_right right, List.getElem?_map,
        ExtensionCatalog.get?, List.length_map, ExtensionCatalog.size, Nat.add_sub_cancel_left]

theorem Decision.eq_of_token?_eq {catalog : ExtensionCatalog} (distinct : (allTokens catalog).Nodup)
    {left right : Decision} (leftBelow : left.subject < catalog.size)
    (rightBelow : right.subject < catalog.size)
    (same : left.token? catalog = right.token? catalog) :
    left = right := by
  rw [token?_eq leftBelow, token?_eq rightBelow] at same
  have inside : left.position catalog < (allTokens catalog).length := by
    simp only [allTokens, List.length_append, List.length_map]
    cases left <;> simp only [position, subject, ExtensionCatalog.size] at leftBelow ⊢ <;> omega
  have positions := (List.getElem?_inj inside distinct).mp same
  cases left <;> cases right <;> simp only [position, subject] at leftBelow rightBelow positions
  · rw [positions]
  · omega
  · omega
  · rw [Nat.add_left_cancel positions]

theorem Regular.mem_listed_of_featureList?_eq {catalog : ExtensionCatalog}
    (distinct : (allTokens catalog).Nodup) {left right : Session}
    (leftRegular : left.Regular catalog) (rightRegular : right.Regular catalog)
    (same : left.featureList? = right.featureList?) {decision : Decision}
    (listed : decision ∈ left.listed) : decision ∈ right.listed := by
  rw [leftRegular.featureList?_eq, rightRegular.featureList?_eq, Option.some.injEq] at same
  have shown := List.mem_map_of_mem (f := Decision.token? catalog) listed
  rw [← Decision.map_some_tokens fun _ => leftRegular.lt_size_of_mem_listed, same,
    Decision.map_some_tokens fun _ => rightRegular.lt_size_of_mem_listed] at shown
  rcases List.mem_map.mp shown with ⟨other, otherListed, sameToken⟩
  have equal := Decision.eq_of_token?_eq distinct (rightRegular.lt_size_of_mem_listed otherListed)
    (leftRegular.lt_size_of_mem_listed listed) sameToken
  exact equal ▸ otherListed

theorem Regular.sets_eq_of_listed {catalog : ExtensionCatalog} {left right : Session}
    (leftRegular : left.Regular catalog) (rightRegular : right.Regular catalog)
    (same : ∀ decision, decision ∈ left.listed ↔ decision ∈ right.listed) :
    left.state.enabled = right.state.enabled ∧ left.state.touched = right.state.touched := by
  have enabled : ∀ id, left.state.IsOn id ↔ right.state.IsOn id := by
    intro id
    rw [← leftRegular.enable_mem_listed, ← rightRegular.enable_mem_listed, same]
  have shown : ∀ {session : Session}, session.Regular catalog → ∀ id,
      session.state.IsTouched id ↔ .enable id ∈ session.listed ∨ .disable id ∈ session.listed := by
    intro session regular id
    rw [regular.enable_mem_listed, regular.disable_mem_listed]
    have covered := regular.coherent.touched id
    tauto
  have touched : ∀ id, left.state.IsTouched id ↔ right.state.IsTouched id := by
    intro id
    rw [shown leftRegular, shown rightRegular, same, same]
  exact ⟨Mask.eq_iff.mpr enabled, Mask.eq_iff.mpr touched⟩

/-- The feature list of a session that was reached on ids of the catalog has one token for each
touched extension in ascending order, and the tokens of the enabled ones are their feature tokens.
A fresh session that takes the listed decisions in any order, none of which fails, ends with the
same sets and the same list. When all tokens of the catalog are distinct, equal lists come from
equal sets. -/
theorem feature_list_replays {catalog : ExtensionCatalog} (accepted : catalog.Accepted) :
    (∀ session, Reachable catalog session →
      ∃ tokens positive, session.featureList? = some tokens ∧
        tokens.map some = session.listed.map (Decision.token? catalog) ∧
        (session.listed.map Decision.subject).Pairwise (· < ·) ∧
        (∀ id, id ∈ session.listed.map Decision.subject ↔ session.state.IsTouched id) ∧
        (∀ id, .enable id ∈ session.listed ↔ session.state.IsOn id) ∧
        catalog.features? session.state.enabled = some positive ∧
        positive.map some =
          (session.listed.filter Decision.enables).map (Decision.token? catalog) ∧
        ∀ negation fresh order, start? catalog negation = some fresh → order.Perm session.listed →
          (fresh.replay order).state.enabled = session.state.enabled ∧
          (fresh.replay order).state.touched = session.state.touched ∧
          (fresh.replay order).featureList? = some tokens ∧
          ∀ before decision after, order = before ++ decision :: after →
            ((fresh.replay before).perform decision.operation).failure = none) ∧
    ((allTokens catalog).Nodup →
      ∀ left right, Reachable catalog left → Reachable catalog right →
        left.featureList? = right.featureList? →
        left.state.enabled = right.state.enabled ∧ left.state.touched = right.state.touched) := by
  constructor
  · intro session reachable
    have regular := reachable.regular accepted
    refine ⟨_, _, regular.featureList?_eq,
      Decision.map_some_tokens fun _ => regular.lt_size_of_mem_listed, ?_, ?_,
      fun id => regular.enable_mem_listed, regular.features?_eq,
      Decision.map_some_tokens fun _ member =>
        regular.lt_size_of_mem_listed (List.mem_of_mem_filter member), ?_⟩
    · rw [Regular.map_subject_listed]
      exact Mask.idsBelow_pairwise_lt _ _
    · intro id
      rw [Regular.map_subject_listed, regular.mem_ids]
    · intro negation fresh order started perm
      rcases regular.replay accepted started perm with ⟨enabled, touched, shown⟩
      refine ⟨enabled, touched, shown.trans regular.featureList?_eq, ?_⟩
      rintro before decision after rfl
      exact regular.failure_replay accepted started perm
  · intro distinct left right leftReachable rightReachable same
    have leftRegular := leftReachable.regular accepted
    have rightRegular := rightReachable.regular accepted
    exact leftRegular.sets_eq_of_listed rightRegular fun decision =>
      ⟨Regular.mem_listed_of_featureList?_eq distinct leftRegular rightRegular same,
        Regular.mem_listed_of_featureList?_eq distinct rightRegular leftRegular same.symm⟩

theorem feature_list_replays_small :
    let operations : List Operation :=
      [.archDefaults smallArchitecture, .disable 0, .enable 2, .disable 1]
    let session := small.run operations
    let order : List Decision := [.disable 2, .enable 3, .disable 1, .enable 0]
    ExtensionCatalog.small.Accepted ∧ (allTokens .small).Nodup ∧ Reachable .small session ∧
    order.Perm session.listed ∧ session.state.enabled = 0b1001 ∧
    ∃ tokens, session.featureList? = some tokens ∧
      tokens.map some = session.listed.map (Decision.token? .small) ∧
      (small.replay order).state.enabled = session.state.enabled ∧
      (small.replay order).state.touched = session.state.touched ∧
      (small.replay order).featureList? = some tokens := by
  intro operations session order
  have reachable : Reachable .small session :=
    ⟨"no-", small, operations, started_small, by decide, rfl⟩
  have listed : session.listed = [.enable 0, .disable 1, .disable 2, .enable 3] := by
    subst session operations
    cbv
  have perm : order.Perm session.listed := by
    rw [listed]
    decide
  rcases (feature_list_replays ExtensionCatalog.accepted_small).1 session reachable with
    ⟨tokens, _, shown, eachToken, _, _, _, _, _, replays⟩
  rcases replays "no-" small order started_small perm with ⟨enabled, touched, again, _⟩
  refine ⟨ExtensionCatalog.accepted_small, by decide, reachable, perm, ?_, tokens, shown, eachToken,
    enabled, touched, again⟩
  subst session operations
  cbv

end TargetFeatures.Session
