import TargetFeatures.Proofs.Session.Replay

/-!
# Modifiers and the tokens they ask for

A modifier is read in two places: a session applies it, and a catalog says which feature token it
asks for. Both know the same modifiers, and what the session lists afterwards for the extension that
a modifier is about is the token that the catalog answers with. Propagation does not come in the
way: after enabling an extension it only enables others, and after disabling one it only disables
others (`Regular.apply_modifier_of_isAbout`).
-/

namespace TargetFeatures

namespace ExtensionCatalog

variable {catalog : ExtensionCatalog} {negation token name : String} {negated : Bool} {id : Nat}

/-! ## What a token says -/

/-- Whether a token is read as a name, negated or not. Whatever follows the negation in a token that
starts with it is negated. -/
inductive Reads (negation token : String) : Bool → String → Prop
  | negated {name : String} (starts : token = negation ++ name) : Reads negation token true name
  | plain (free : ∀ name, token ≠ negation ++ name) : Reads negation token false token

/-- Whether a token is about the extension with an id: it has the name in the token, or the name
that this is an alternate one for. -/
def IsAbout (catalog : ExtensionCatalog) (negation token : String) (negated : Bool) (id : Nat) :
    Prop :=
  ∃ name extension, Reads negation token negated name ∧ catalog.get? id = some extension ∧
    extension.name = catalog.aliases.resolve name

theorem afterPrefix?_eq_some_iff {start text rest : List Char} :
    afterPrefix? start text = some rest ↔ text = start ++ rest := by
  induction start generalizing text with
  | nil => simp [afterPrefix?]
  | cons expected start ih =>
      cases text with
      | nil => simp [afterPrefix?]
      | cons character text =>
          rw [afterPrefix?, List.cons_append, List.cons.injEq]
          split
          · next same => rw [ih, and_iff_right same.symm]
          · next different => simp [Ne.symm different]

theorem afterPrefix?_toList_eq_some_iff :
    afterPrefix? negation.toList token.toList = some name.toList ↔ token = negation ++ name := by
  rw [afterPrefix?_eq_some_iff, ← String.toList_append, String.toList_inj]

theorem reads_splitToken (negation token : String) :
    Reads negation token (splitToken negation token).1 (splitToken negation token).2 := by
  rw [splitToken]
  cases found : afterPrefix? negation.toList token.toList with
  | none =>
      refine .plain fun name starts => ?_
      rw [afterPrefix?_toList_eq_some_iff.mpr starts] at found
      cases found
  | some rest =>
      rw [← String.toList_ofList (l := rest), afterPrefix?_toList_eq_some_iff] at found
      exact .negated found

theorem Reads.unique {other : Bool} {otherName : String}
    (reads : Reads negation token negated name) (again : Reads negation token other otherName) :
    negated = other ∧ name = otherName := by
  cases reads with
  | negated starts =>
      cases again with
      | negated startsAgain => exact ⟨rfl, by simpa [starts] using startsAgain⟩
      | plain free => exact absurd starts (free _)
  | plain free =>
      cases again with
      | negated starts => exact absurd starts (free _)
      | plain _ => exact ⟨rfl, rfl⟩

/-- A token is about the extension that is found under the name in it. -/
theorem isAbout_iff (distinct : catalog.names.Nodup) :
    catalog.IsAbout negation token negated id ↔
      (splitToken negation token).1 = negated ∧
        catalog.parse? (splitToken negation token).2 = some id := by
  have found : ∀ name, catalog.parse? name = some id ↔
      ∃ extension, catalog.get? id = some extension ∧
        extension.name = catalog.aliases.resolve name := by
    intro name
    rw [parse?, find?_eq_some_iff distinct, names, List.getElem?_map, Option.map_eq_some_iff, get?]
  rw [found]
  constructor
  · rintro ⟨name, extension, reads, known⟩
    rcases (reads_splitToken negation token).unique reads with ⟨sameSide, sameName⟩
    exact ⟨sameSide, extension, sameName ▸ known⟩
  · rintro ⟨rfl, extension, known⟩
    exact ⟨_, extension, reads_splitToken negation token, known⟩

/-- The catalog answers with the token of the extension that a token is about. -/
theorem IsAbout.featureFor?_eq (about : catalog.IsAbout negation token negated id)
    (distinct : catalog.names.Nodup) :
    catalog.featureFor? token negation = (catalog.get? id).map fun extension =>
      if negated then extension.negFeature else extension.feature := by
  rcases (isAbout_iff distinct).mp about with ⟨rfl, parsed⟩
  simp only [featureFor?, parsed, Option.bind_eq_bind, Option.bind_some, Option.pure_def]
  exact (Option.map_eq_bind ..).symm

theorem parse?_splitToken_eq_none (distinct : catalog.names.Nodup)
    (unknown : ∀ negated id, ¬catalog.IsAbout negation token negated id) :
    catalog.parse? (splitToken negation token).2 = none := by
  rw [Option.eq_none_iff_forall_not_mem]
  exact fun id parsed => unknown _ id ((isAbout_iff distinct).mpr ⟨rfl, parsed⟩)

theorem featureFor?_eq_none_iff (distinct : catalog.names.Nodup) :
    catalog.featureFor? token negation = none ↔
      ∀ negated id, ¬catalog.IsAbout negation token negated id := by
  constructor
  · intro nothing negated id about
    rw [about.featureFor?_eq distinct, Option.map_eq_none_iff] at nothing
    rcases about with ⟨_, _, _, found, _⟩
    rw [nothing] at found
    cases found
  · intro unknown
    simp only [featureFor?, parse?_splitToken_eq_none distinct unknown, Option.bind_eq_bind,
      Option.bind_none]

end ExtensionCatalog

namespace Session

variable {catalog : ExtensionCatalog} {session : Session} {token : String} {negated : Bool}
  {id : Nat}

/-! ## The entry of an extension -/

/-- The entry for an extension in the feature list. There is one for each touched extension, after
those of the touched extensions with smaller ids. -/
def listedToken? (session : Session) (id : Nat) : Option String :=
  if session.state.touched.testBit id then
    session.featureList?.bind (·[(Mask.idsBelow id session.state.touched).length]?)
  else none

theorem Regular.listedToken?_eq (regular : session.Regular catalog)
    (touched : session.state.IsTouched id) :
    session.listedToken? id = (catalog.get? id).map fun extension =>
      if session.state.enabled.testBit id then extension.feature else extension.negFeature := by
  have member : session.state.touched.testBit id = true := touched
  have place := Mask.getElem?_idsBelow (regular.below id touched)
    ((Mask.contains_natCast _ _).trans member)
  have shown := congrArg (·[(Mask.idsBelow id session.state.touched).length]?)
    (Decision.map_some_tokens fun _ => regular.lt_size_of_mem_listed)
  simp only [List.getElem?_map, listed, regular.catalog_eq, place, Option.map_some] at shown
  rw [Option.map_eq_some_iff] at shown
  rcases shown with ⟨entry, found, same⟩
  rw [listedToken?, if_pos member, regular.featureList?_eq, Option.bind_some, listed,
    regular.catalog_eq, found, same]
  split <;> rfl

/-! ## Both ways of reading a modifier -/

section

variable (regular : session.Regular catalog) (accepted : catalog.Accepted)

include regular accepted

theorem Regular.applyModifier_eq_of_isAbout
    (about : catalog.IsAbout session.negation token negated id) :
    session.applyModifier token =
      (true, if negated then State.disable catalog id session.state
        else State.enable catalog id session.state) := by
  rcases (ExtensionCatalog.isAbout_iff accepted.nodup_names).mp about with ⟨rfl, parsed⟩
  rw [applyModifier_eq, regular.catalog_eq]
  simp only [parsed]

theorem Regular.applyModifier_eq_of_forall_not_isAbout
    (unknown : ∀ negated id, ¬catalog.IsAbout session.negation token negated id) :
    session.applyModifier token = (false, ⟨session.state, [.unknownModifier token], none⟩) := by
  rw [applyModifier_eq, regular.catalog_eq]
  simp only [ExtensionCatalog.parse?_splitToken_eq_none accepted.nodup_names unknown]

theorem Regular.applyModifier_accepts_iff :
    (session.applyModifier token).1 = true ↔
      ∃ negated id, catalog.IsAbout session.negation token negated id := by
  constructor
  · contrapose!
    intro unknown
    rw [regular.applyModifier_eq_of_forall_not_isAbout accepted unknown]
    exact Bool.false_ne_true
  · rintro ⟨negated, id, about⟩
    rw [regular.applyModifier_eq_of_isAbout accepted about]

/-- A modifier leaves the extension that it is about touched, and enabled unless it is negated. -/
theorem Regular.apply_modifier_of_isAbout
    (about : catalog.IsAbout session.negation token negated id) :
    (session.apply (.modifier token)).state.IsTouched id ∧
      (session.apply (.modifier token)).state.enabled.testBit id = !negated := by
  rw [apply, perform, regular.applyModifier_eq_of_isAbout accepted about]
  cases negated with
  | true =>
      have off : ¬(State.disable catalog id session.state).state.IsOn id := by
        rw [State.isOn_disable accepted regular.coherent]
        exact fun on => on.2 .refl
      exact ⟨(State.isTouched_disable accepted regular.coherent).mpr (Or.inr rfl),
        Bool.eq_false_iff.mpr off⟩
  | false =>
      exact ⟨(State.isTouched_enable accepted regular.coherent).mpr (Or.inr (.refl id)),
        (State.isOn_enable accepted regular.coherent).mpr (Or.inr (.refl id))⟩

end

/-- A session and the catalog know the same modifiers. One that is not known leaves the session as
it is. After one that is known, the entry in the feature list for the extension that it is about is
the token that the catalog answers with. -/
theorem modifier_lists_its_token (accepted : catalog.Accepted)
    (reachable : Reachable catalog session) (token : String) :
    ((session.applyModifier token).1 = false ↔
      catalog.featureFor? token session.negation = none) ∧
    ((session.applyModifier token).1 = false →
      (session.applyModifier token).2.state = session.state) ∧
    ((session.applyModifier token).1 = true →
      (∃ negated id, catalog.IsAbout session.negation token negated id) ∧
      ∀ negated id, catalog.IsAbout session.negation token negated id →
        ∃ shown, catalog.featureFor? token session.negation = some shown ∧
          (session.apply (.modifier token)).listedToken? id = some shown) ∧
    (session.applyModifier token).2.failure = none := by
  have regular := reachable.regular accepted
  have whole : (session.perform (.modifier token)).failure = none :=
    reachable.failure_perform accepted trivial
  have refuses : (session.applyModifier token).1 = false ↔
      ∀ negated id, ¬catalog.IsAbout session.negation token negated id := by
    rw [← Bool.not_eq_true, regular.applyModifier_accepts_iff accepted]
    simp only [not_exists]
  refine ⟨?_, ?_, ?_, whole⟩
  · rw [refuses, ExtensionCatalog.featureFor?_eq_none_iff accepted.nodup_names]
  · intro refused
    rw [regular.applyModifier_eq_of_forall_not_isAbout accepted (refuses.mp refused)]
  · intro accepts
    refine ⟨(regular.applyModifier_accepts_iff accepted).mp accepts, fun negated id about => ?_⟩
    have next := @Reachable.run _ _ reachable [.modifier token] (by simp [Operation.OnCatalog])
    rw [run_cons, run_nil] at next
    have answer := about.featureFor?_eq accepted.nodup_names
    rcases regular.apply_modifier_of_isAbout accepted about with ⟨touched, enabled⟩
    rcases about with ⟨_, extension, _, found, _⟩
    rw [found, Option.map_some] at answer
    refine ⟨_, answer, ?_⟩
    rw [(next.regular accepted).listedToken?_eq touched, found, Option.map_some, enabled]
    cases negated <;> rfl

theorem modifier_lists_its_token_small :
    let session := small.run [.archDefaults smallArchitecture, .enable 2]
    ExtensionCatalog.small.Accepted ∧ Reachable .small session ∧
    (session.applyModifier "no-such").1 = false ∧
    (session.applyModifier "no-such").2.state = session.state ∧
    (session.applyModifier "no-neon").1 = true ∧
    ExtensionCatalog.small.IsAbout "no-" "no-neon" true 1 ∧
    ExtensionCatalog.small.featureFor? "no-neon" "no-" = some "-simd" ∧
    (session.apply (.modifier "no-neon")).listedToken? 1 = some "-simd" := by
  intro session
  have accepted := ExtensionCatalog.accepted_small
  have reachable : Reachable .small session :=
    ⟨"no-", small, _, started_small, by decide, rfl⟩
  have negation : session.negation = "no-" := negation_run _ _
  have about : ExtensionCatalog.small.IsAbout "no-" "no-neon" true 1 :=
    ⟨"neon", ⟨"simd", "+simd", "-simd", none, none, 0⟩, .negated (by decide), by decide,
      by decide⟩
  have missing : ExtensionCatalog.small.featureFor? "no-such" "no-" = none := by decide +kernel
  have answer : ExtensionCatalog.small.featureFor? "no-neon" "no-" = some "-simd" := by
    decide +kernel
  rcases modifier_lists_its_token accepted reachable "no-such" with ⟨refuses, unchanged, _, _⟩
  rcases modifier_lists_its_token accepted reachable "no-neon" with ⟨known, _, entry, _⟩
  rw [negation, missing] at refuses
  rw [negation, answer] at known
  have accepts : (session.applyModifier "no-neon").1 = true := by simpa using known
  rw [negation] at entry
  rcases (entry accepts).2 true 1 about with ⟨shown, sameAnswer, listed⟩
  rw [answer, Option.some.injEq] at sameAnswer
  exact ⟨accepted, reachable, refuses.mpr rfl, unchanged (refuses.mpr rfl), accepts, about, answer,
    sameAnswer ▸ listed⟩

end Session

end TargetFeatures
