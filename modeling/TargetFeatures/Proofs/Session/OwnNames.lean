import TargetFeatures.Proofs.Catalog.AlternateNames
import TargetFeatures.Proofs.Session.Modifiers

/-!
# Controlling an extension by its own name

In the catalog of a description without findings no two extensions share a name, and no alternate
name hides one. So every extension is disabled by its negated name. It is enabled by its name,
unless that starts with the negation prefix: such a name is read as the negation of its rest, which
may be the name of another extension. No pass of the validation looks at this, because the prefix
belongs to a session.
-/

namespace TargetFeatures

namespace ModelCatalog.Represents

variable {spec : CatalogSpec} {catalog : ModelCatalog}

/-- A token in which the name of an extension is read is about that extension. -/
theorem isAbout_of_reads (represents : Represents spec catalog) (unhidden : spec.NothingHidden)
    {negation token : String} {negated : Bool} {id : Nat} {extension : Extension}
    (found : catalog.extensions.get? id = some extension)
    (reads : ExtensionCatalog.Reads negation token negated extension.name) :
    catalog.extensions.IsAbout negation token negated id := by
  have listed : extension.name ∈ catalog.extensions.names :=
    List.mem_map_of_mem (List.mem_of_getElem? found)
  have itself := (represents.aliases_hidesNone unhidden).resolve_of_mem listed
  exact ⟨extension.name, extension, reads, found, itself.symm⟩

end ModelCatalog.Represents

namespace Session

variable {catalog : ExtensionCatalog} {session : Session} {token rest : String}

/-! ## A token that starts with the negation prefix -/

section

variable (regular : session.Regular catalog) (starts : token = session.negation ++ rest)

include regular starts

theorem Regular.applyModifier_of_starts :
    session.applyModifier token = match catalog.parse? rest with
      | none => (false, ⟨session.state, [.unknownModifier token], none⟩)
      | some target => (true, State.disable catalog target session.state) := by
  rcases (ExtensionCatalog.reads_splitToken session.negation token).unique (.negated starts) with
    ⟨negated, name⟩
  rw [applyModifier_eq]
  dsimp only
  rw [name, negated, regular.catalog_eq]
  rfl

theorem Regular.accepts_iff_of_starts :
    (session.applyModifier token).1 = true ↔ ∃ target, catalog.parse? rest = some target := by
  rw [regular.applyModifier_of_starts starts]
  cases catalog.parse? rest <;> simp

/-- Such a modifier enables nothing, and it disables what depends on the extension that the rest
names. -/
theorem Regular.isOn_of_starts (accepted : catalog.Accepted) {other : Nat} :
    (session.apply (.modifier token)).state.IsOn other ↔
      session.state.IsOn other ∧
        ∀ target, catalog.parse? rest = some target → ¬catalog.Descendant target other := by
  rw [apply, perform, regular.applyModifier_of_starts starts]
  cases catalog.parse? rest with
  | none => simp
  | some target =>
      simp only [Option.some.injEq, forall_eq']
      exact State.isOn_disable accepted regular.coherent

end

/-! ## The own name of an extension -/

/-- In the catalog of a description without findings no modifier fails, and every extension is
disabled by its negated name. It is enabled by its name unless that starts with the negation prefix.
A name that does is known if its rest is known, enables nothing, and disables the extension that the
rest names with all that depend on it. -/
theorem own_names_control {spec : CatalogSpec}
    (clean : spec.validate ExtensionCatalog.defaultWidth = []) :
    ∃ catalog, ModelCatalog.build spec = .ok catalog ∧
      ∀ session, Reachable catalog.extensions session →
        (∀ token, (session.applyModifier token).2.failure = none) ∧
        ∀ id extension, catalog.extensions.get? id = some extension →
          ((session.applyModifier (session.negation ++ extension.name)).1 = true ∧
            ¬(session.apply (.modifier (session.negation ++ extension.name))).state.IsOn id) ∧
          ((∀ rest, extension.name ≠ session.negation ++ rest) →
            (session.applyModifier extension.name).1 = true ∧
              (session.apply (.modifier extension.name)).state.IsOn id) ∧
          ∀ rest, extension.name = session.negation ++ rest →
            ((session.applyModifier extension.name).1 = true ↔
              ∃ target, catalog.extensions.parse? rest = some target) ∧
            ∀ other, (session.apply (.modifier extension.name)).state.IsOn other ↔
              session.state.IsOn other ∧
                ∀ target, catalog.extensions.parse? rest = some target →
                  ¬catalog.extensions.Descendant target other := by
  have valid : CatalogSpec.isValid (spec.validate ExtensionCatalog.defaultWidth) = true := by
    rw [clean]
    rfl
  have unwarned : ∀ finding ∈ spec.validate ExtensionCatalog.defaultWidth,
      finding.category ≠ "ALIAS_SHADOWS_NAME" := by
    simp [clean]
  have unhidden := CatalogSpec.nothingHidden_of_validate unwarned
  rcases ModelCatalog.exists_build_eq_ok_iff.mpr
    (CatalogSpec.isValid_validate_iff.mp valid).1 with ⟨catalog, built⟩
  have represents := ModelCatalog.represents_build built
  refine ⟨catalog, built, fun session reachable => ?_⟩
  have regular := reachable.regular represents.accepted
  have finishes : ∀ token, (session.perform (.modifier token)).failure = none :=
    fun _ => reachable.failure_perform represents.accepted trivial
  refine ⟨finishes, fun id extension found =>
    ⟨?_, fun free => ?_, fun rest starts => ⟨?_, fun other => ?_⟩⟩⟩
  · have reads : ExtensionCatalog.Reads session.negation (session.negation ++ extension.name) true
        extension.name := .negated rfl
    have about := represents.isAbout_of_reads unhidden found reads
    refine ⟨(regular.applyModifier_accepts_iff represents.accepted).mpr ⟨_, _, about⟩, ?_⟩
    exact Bool.eq_false_iff.mp (regular.apply_modifier_of_isAbout represents.accepted about).2
  · have about := represents.isAbout_of_reads unhidden found (.plain free)
    refine ⟨(regular.applyModifier_accepts_iff represents.accepted).mpr ⟨_, _, about⟩, ?_⟩
    exact (regular.apply_modifier_of_isAbout represents.accepted about).2
  · exact regular.accepts_iff_of_starts starts
  · exact regular.isOn_of_starts starts represents.accepted

end Session

/-- Three extensions on their own. After the prefix `no` the name of the second one is read as that
of the first one, and the name of the third one as no name at all. -/
def CatalogSpec.disguised : CatalogSpec where
  extensions := ["sve", "nosve", "normal"].map fun name =>
    ⟨name, "+" ++ name, none, none, none, leastPriority⟩
  dependencies := []
  architectures := []
  processors := []
  cpuAliases := AliasTable.empty
  extensionAliases := AliasTable.empty

def ModelCatalog.disguised : ModelCatalog where
  extensions :=
    { extensions := ["sve", "nosve", "normal"].map fun name =>
        ⟨name, "+" ++ name, "-" ++ name, none, none, 0⟩
      edges := []
      aliases := AliasTable.empty
      width := ExtensionCatalog.defaultWidth }
  architectures := []
  processors := []
  cpuAliases := AliasTable.empty

namespace Session

theorem own_names_control_disguised :
    let fresh : Session := ⟨ModelCatalog.disguised.extensions, "no", .start⟩
    CatalogSpec.disguised.validate ExtensionCatalog.defaultWidth = [] ∧
    ModelCatalog.build .disguised = .ok .disguised ∧
    Reachable ModelCatalog.disguised.extensions fresh ∧
    (∀ name, "sve" ≠ "no" ++ name) ∧
    (fresh.applyModifier "sve").1 = true ∧ (fresh.apply (.modifier "sve")).state.IsOn 0 ∧
    (fresh.applyModifier "nosve").1 = true ∧ ¬(fresh.apply (.modifier "nosve")).state.IsOn 0 := by
  intro fresh
  have clean : CatalogSpec.disguised.validate ExtensionCatalog.defaultWidth = [] := by
    decide +kernel
  have built : ModelCatalog.build .disguised = .ok .disguised := by decide +kernel
  have reachable : Reachable ModelCatalog.disguised.extensions fresh :=
    ⟨"no", fresh, [], rfl, by simp, rfl⟩
  have free : ∀ name, "sve" ≠ "no" ++ name := by
    intro name same
    have letters := congrArg String.toList same
    simp at letters
  rcases own_names_control clean with ⟨catalog, again, controls⟩
  obtain rfl : ModelCatalog.disguised = catalog := Except.ok.inj (built.symm.trans again)
  rcases (controls fresh reachable).2 0 ⟨"sve", "+sve", "-sve", none, none, 0⟩ (by decide) with
    ⟨⟨knownNegated, off⟩, plain, _⟩
  exact ⟨clean, built, reachable, free, (plain free).1, (plain free).2, knownNegated, off⟩

/-- The name `nosve` disables `sve` and leaves its own extension off, and `normal` is not known. -/
theorem disguised_names_are_misread :
    let session : Session := ⟨ModelCatalog.disguised.extensions, "no", ⟨0b001, 0b001, none⟩⟩
    CatalogSpec.disguised.validate ExtensionCatalog.defaultWidth = [] ∧
      ModelCatalog.build .disguised = .ok .disguised ∧
      ModelCatalog.disguised.extensions.names = ["sve", "nosve", "normal"] ∧
      Reachable ModelCatalog.disguised.extensions session ∧
      session.applyModifier "nosve" =
        (true, ⟨⟨0b000, 0b001, none⟩, [.disabled "sve"], none⟩) ∧
      session.applyModifier "normal" =
        (false, ⟨session.state, [.unknownModifier "normal"], none⟩) := by
  intro session
  have built : ModelCatalog.build .disguised = .ok .disguised := by decide +kernel
  have switched : (⟨ModelCatalog.disguised.extensions, "no", .start⟩ : Session).run [.enable 0] =
      session := by
    subst session
    cbv
  have reachable : Reachable ModelCatalog.disguised.extensions session :=
    ⟨"no", _, [.enable 0], rfl, by decide, switched.symm⟩
  have accepted := (ModelCatalog.represents_build built).accepted
  have known : ModelCatalog.disguised.extensions.parse? "sve" = some 0 := by decide
  have unknown : ModelCatalog.disguised.extensions.parse? "rmal" = none := by decide
  refine ⟨by decide +kernel, built, by decide, reachable, ?_, ?_⟩
  · have starts : "nosve" = session.negation ++ "sve" := by decide
    rw [(reachable.regular accepted).applyModifier_of_starts starts, known]
    subst session
    cbv
  · have starts : "normal" = session.negation ++ "rmal" := by decide
    rw [(reachable.regular accepted).applyModifier_of_starts starts, unknown]

end Session

end TargetFeatures
