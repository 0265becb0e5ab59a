import TargetFeatures.Proofs.Command.Modes
import TargetFeatures.Proofs.Data.Failure

/-!
# How a run ends

The words of a run may name a command that reports, and then it ends as that command does with the
settings at hand (`Invokes.eq_ofRun`). So its exit code depends neither on the words that ask for a
record nor on the settings that do (`Invokes.alike`), a record tells that exit code
(`Invokes.exists_record`), and a validation succeeds when it should (`Invokes.succeeds_iff`).
-/

namespace TargetFeatures.Command

open Value (HasTextKeys lookup?)

/-! ## The whole program -/

/-- What a command has to work with when settings come from a store. -/
def contextOf (store : SettingsStore) : Context :=
  ⟨store.workspace, (store.get.map LoadedSettings.settings).mapError LoadFailure.error⟩

/-- Whether words run the command with a name on some further words, and whether they ask for a
record. -/
def Invokes (words : List String) (asked : Bool) (name : Name) (rest : List String) : Prop :=
  ∃ globals word, Words.read? globalRules false words = some globals ∧
    globals.has .version = false ∧ globals.has .json = asked ∧
    globals.arguments = word :: rest ∧ Name.ofText? word = some name

section

variable {store : SettingsStore} {words rest : List String} {asked : Bool} {name : Name}
  {command : Context → Bool → Except Stop Report}

theorem Invokes.run_eq (invokes : Invokes words asked name rest)
    (ready : (run store words).1.failure = none ∨ (contextOf store).HasSettings) :
    run store words = runCommand .plain store asked name rest := by
  rcases invokes with ⟨globals, word, read, noVersion, rfl, arguments, named⟩
  unfold run runOn at ready ⊢
  simp only [read, noVersion, arguments, named, Bool.false_eq_true, if_false] at ready ⊢
  cases loaded : store.get with
  | ok settings => rfl
  | error failure =>
      simp only [loaded, contextOf, Context.HasSettings, Except.map, Except.mapError, reduceCtorEq,
        exists_false, or_false] at ready ⊢
      split at ready
      · next verbose => exact if_pos verbose
      · cases ready

theorem runCommand_of_runs (runs : name.Runs rest command) :
    (runCommand .plain store asked name rest).1 = .ofRun (command (contextOf store) asked) := by
  cases runs with
  | resolve read => simp [runCommand, runQuery, read, contextOf]
  | validate read => simp [runCommand, runQuery, read, contextOf]

/-- Words that a command cannot read are always a wrong use, or always fail for a path in them. -/
theorem runQuery_of_unread {α : Type} {query : Except WordError α}
    (unread : ¬∃ value, query = .ok value) (answer : Bool → Context → α → Except Stop Report) :
    (∀ store asked, (runQuery store query (answer asked)).1 = .misused) ∨
      ∀ store asked, (runQuery store query (answer asked)).1.failure ≠ none := by
  rcases exists_eq_error_iff.mpr unread with ⟨_ | error, rfl⟩
  · exact Or.inl fun _ _ => rfl
  · exact Or.inr fun _ _ => nofun

theorem runCommand_of_unread (reports : name ≠ .config)
    (unread : ¬∃ command, name.Runs rest command) :
    (∀ store asked, (runCommand .plain store asked name rest).1 = .misused) ∨
      ∀ store asked, (runCommand .plain store asked name rest).1.failure ≠ none := by
  cases name with
  | config => exact absurd rfl reports
  | resolve =>
      exact runQuery_of_unread (fun ⟨_, read⟩ => unread ⟨_, .resolve read⟩)
        fun asked context query => Resolve.run context asked query
  | validate =>
      exact runQuery_of_unread (fun ⟨_, read⟩ => unread ⟨_, .validate read⟩)
        fun asked context query => Validate.run context asked query

end

/-! ## Validating a file -/

namespace Validate

/-- The description that a query is about: the one in its file, or that of the bundled catalog. -/
def Query.description (query : Query) (workspace : Workspace) : Except SpecError CatalogSpec :=
  match query.file with
  | none => .ok Bundled.spec
  | some path => CatalogSpec.ofFile workspace path

/-- The errors that a validation finds in a description. -/
def errorsOf (spec : CatalogSpec) : List Finding :=
  (spec.validate ExtensionCatalog.defaultWidth).filter Finding.isError

/-- The warnings that a validation finds in a description. -/
def warningsOf (spec : CatalogSpec) : List Finding :=
  (spec.validate ExtensionCatalog.defaultWidth).filter (!Finding.isError ·)

/-- A file that is reported to hold no description is reported as invalid. -/
theorem exitCode_of_stopFor {isRecord : Bool} {error : SpecError}
    (ended : (Outcome.ofRun (.error (stopFor (.start isRecord) error))).failure = none) :
    (Outcome.ofRun (.error (stopFor (.start isRecord) error))).exitCode = .invalid := by
  have failure : ExitCode.invalid ≠ .success := nofun
  cases error with
  | defects found => exact ((Report.tells_start isRecord).failElided failure).code
  | file error => cases ended
  | text error =>
      cases error with
      | malformed => exact ((Report.tells_start isRecord).failElided failure).code
      | _ => cases ended

variable {context : Context} {asked : Bool} {query : Query} {spec : CatalogSpec}

section

variable (present : ∀ path ∈ query.file, context.workspace.probe path = .ok true)

include present

theorem exists_subjectFor_eq (describes : query.description context.workspace = .ok spec)
    (report : Report) :
    ∃ subject, subjectFor context.workspace report query.file = .ok subject ∧
      subject.spec = spec := by
  unfold Query.description at describes
  cases place : query.file with
  | none =>
      simp only [place] at describes
      exact ⟨.bundled, rfl, Except.ok.inj describes⟩
  | some path =>
      simp only [place] at describes
      refine ⟨⟨spec, path.name, path.text⟩, ?_, rfl⟩
      simp [subjectFor, present path place, describes, Except.mapError, bind, Except.bind]
      rfl

/-- A validation reports what it finds in a description. -/
theorem exists_tells_run (known : asked = true ∨ context.HasSettings)
    (describes : query.description context.workspace = .ok spec) :
    ∃ report, run context asked query = .ok report ∧
      report.Tells (context.writesRecord asked) ((warningsOf spec).map noticeOf)
        (errorNotices (errorsOf spec) (warningsOf spec) query.strict)
        (codeFor (errorNotices (errorsOf spec) (warningsOf spec) query.strict)) := by
  rcases exists_subjectFor_eq present describes (.start (context.writesRecord asked)) with
    ⟨subject, found, rfl⟩
  have start := Context.startReport_eq known
  have other : "catalog_file" ∉ verdictFields := by decide
  refine ⟨_, by rw [run, start]; simp only [bind, Except.bind, found]; rfl, ?_⟩
  exact tells_addFindings ((Report.tells_start _).success (by simpa using other)) _ _

/-- A validation of a file that is there and holds no description says that the file is invalid, if
it says anything. -/
theorem exitCode_of_not_describes
    (undescribed : ¬∃ spec, query.description context.workspace = .ok spec)
    (known : asked = true ∨ context.HasSettings)
    (ended : (Outcome.ofRun (run context asked query)).failure = none) :
    (Outcome.ofRun (run context asked query)).exitCode = .invalid := by
  have start := Context.startReport_eq known
  rcases exists_eq_error_iff.mpr undescribed with ⟨error, failed⟩
  unfold Query.description at failed
  cases place : query.file with
  | none => simp [place] at failed
  | some path =>
      simp only [place] at failed
      have stopped : run context asked query =
          .error (stopFor (.start (context.writesRecord asked)) error) := by
        simp [run, start, subjectFor, place, present path place, failed, Except.mapError, bind,
          Except.bind]
      rw [stopped] at ended ⊢
      exact exitCode_of_stopFor ended

end

end Validate

/-! ## The verdict -/

theorem ExitCode.number_eq_zero_iff {exitCode : ExitCode} :
    exitCode.number = 0 ↔ exitCode = .success := by
  cases exitCode <;> simp [number]

section

variable {store twin : SettingsStore} {words twinWords rest : List String} {asked twinAsked : Bool}
  {name : Name} {command : Context → Bool → Except Stop Report}
  (invokes : Invokes words asked name rest)

include invokes

theorem Invokes.eq_ofRun (runs : name.Runs rest command)
    (ready : (run store words).1.failure = none ∨ (contextOf store).HasSettings) :
    (run store words).1 = .ofRun (command (contextOf store) asked) :=
  (congrArg Prod.fst (invokes.run_eq ready)).trans (runCommand_of_runs runs)

variable (ended : (run store words).1.failure = none)

include ended

theorem Invokes.known (runs : name.Runs rest command) :
    asked = true ∨ (contextOf store).HasSettings := by
  have answered := invokes.eq_ofRun runs (Or.inl ended)
  rw [answered] at ended
  exact runs.known_of_ended ended

theorem Invokes.exists_tells (runs : name.Runs rest command) :
    ∃ report warnings errors exitCode, (run store words).1 = .ofReport report ∧
      report.Tells ((contextOf store).writesRecord asked) warnings errors exitCode := by
  have answered := invokes.eq_ofRun runs (Or.inl ended)
  rw [answered] at ended ⊢
  exact runs.exists_tells ended

theorem Invokes.misused_of_unread (reports : name ≠ .config)
    (unread : ¬∃ command, name.Runs rest command) :
    ∀ twin twinAsked, (runCommand .plain twin twinAsked name rest).1 = .misused := by
  rcases runCommand_of_unread reports unread with misused | fails
  · exact misused
  · rw [invokes.run_eq (Or.inl ended)] at ended
    exact absurd ended (fails store asked)

/-- With a store that differs in the mode only, or asked for another one, a command ends with the
same exit code. It always ends then, unless the settings that it needs cannot be loaded. -/
theorem Invokes.alike (reports : name ≠ .config)
    (twinInvokes : Invokes twinWords twinAsked name rest)
    (same : (contextOf store).SameButMode (contextOf twin))
    (ready : (run twin twinWords).1.failure = none ∨ (contextOf twin).HasSettings) :
    (run twin twinWords).1.failure = none ∧
      (run twin twinWords).1.exitCode = (run store words).1.exitCode := by
  by_cases read : ∃ command, name.Runs rest command
  · rcases read with ⟨command, runs⟩
    have agree : asked = twinAsked ∨ (contextOf store).HasSettings := by
      by_cases loaded : (contextOf store).HasSettings
      · exact Or.inr loaded
      · have unloaded := mt same.hasSettings_iff.mpr loaded
        have twinEnded := ready.resolve_right unloaded
        have asksFirst := (invokes.known ended runs).resolve_right loaded
        have asksSecond := (twinInvokes.known twinEnded runs).resolve_right unloaded
        exact Or.inl (asksFirst.trans asksSecond.symm)
    rcases (runs.alike same agree).outcomes_eq with ⟨sameCode, endsAlike⟩
    have answered := invokes.eq_ofRun runs (Or.inl ended)
    rw [answered] at ended ⊢
    rw [twinInvokes.eq_ofRun runs ready]
    exact ⟨endsAlike.mp ended, sameCode.symm⟩
  · have misused := invokes.misused_of_unread ended reports read
    rw [invokes.run_eq (Or.inl ended), twinInvokes.run_eq ready, misused, misused]
    exact ⟨rfl, rfl⟩

theorem Invokes.exists_record (runs : name.Runs rest command)
    (writes : (contextOf store).writesRecord asked = true) :
    ∃ fields status errors,
      (run store words).1.output = Json.pretty (.map fields) ++ "\n" ∧ HasTextKeys fields ∧
      lookup? fields "exit_code" = some (.ofInt (run store words).1.exitCode.number) ∧
      lookup? fields "status" = some (.ofText status) ∧
      lookup? fields "errors" = some (.list errors) ∧
      (status = "error" ↔ errors ≠ []) ∧
      (errors ≠ [] ↔ (run store words).1.exitCode.number ≠ 0) := by
  rcases invokes.exists_tells ended runs with ⟨report, warnings, errors, exitCode, same, tells⟩
  rw [writes] at tells
  rcases tells.exists_output_eq with ⟨fields, output, shows, code⟩
  have sameCode : (run store words).1.exitCode = exitCode :=
    (congrArg Outcome.exitCode same).trans tells.code
  refine ⟨fields, _, _, (congrArg Outcome.output same).trans output, shows.keys, ?_, shows.status,
    shows.errors, ?_, ?_⟩
  · rw [sameCode, code]
  · cases errors <;> simp
  · rw [sameCode, ne_eq, ne_eq, ExitCode.number_eq_zero_iff, tells.succeeds, List.map_eq_nil_iff]

end

section

variable {store : SettingsStore} {words rest : List String} {asked : Bool}
  (invokes : Invokes words asked .validate rest) {query : Validate.Query}
  (read : Validate.Query.ofWords rest = .ok query)
  (present : ∀ path ∈ query.file, store.workspace.probe path = .ok true)

include invokes read present

/-- Validating a description comes to an end if the settings are there, or if it has already. -/
theorem Invokes.exists_validation {spec : CatalogSpec}
    (describes : query.description store.workspace = .ok spec)
    (ready : (run store words).1.failure = none ∨ (contextOf store).HasSettings) :
    ∃ report, (run store words).1 = .ofReport report ∧
      report.Tells ((contextOf store).writesRecord asked)
        ((Validate.warningsOf spec).map Validate.noticeOf)
        (Validate.errorNotices (Validate.errorsOf spec) (Validate.warningsOf spec) query.strict)
        (Validate.codeFor (Validate.errorNotices (Validate.errorsOf spec)
          (Validate.warningsOf spec) query.strict)) := by
  have runs := Name.Runs.validate read
  have known : asked = true ∨ (contextOf store).HasSettings := by
    rcases ready with ended | loaded
    · exact invokes.known ended runs
    · exact Or.inr loaded
  rcases @Validate.exists_tells_run (contextOf store) _ _ _ present known describes with
    ⟨report, answered, tells⟩
  refine ⟨report, ?_, tells⟩
  rw [invokes.eq_ofRun runs ready, answered]
  rfl

theorem Invokes.succeeds_iff (ended : (run store words).1.failure = none) :
    (run store words).1.exitCode.number = 0 ↔ ∃ spec, query.description store.workspace = .ok spec ∧
      Validate.errorsOf spec = [] ∧ (query.strict = true → Validate.warningsOf spec = []) := by
  rw [ExitCode.number_eq_zero_iff]
  by_cases described : ∃ spec, query.description store.workspace = .ok spec
  · rcases described with ⟨spec, describes⟩
    rcases invokes.exists_validation read present describes (Or.inl ended) with
      ⟨report, same, tells⟩
    have sameCode := (congrArg Outcome.exitCode same).trans tells.code
    rw [sameCode, Validate.codeFor_eq_success_iff, Validate.errorNotices_eq_nil_iff]
    constructor
    · exact fun correct => ⟨spec, describes, correct⟩
    · rintro ⟨other, otherDescribes, correct⟩
      exact Except.ok.inj (otherDescribes.symm.trans describes) ▸ correct
  · have runs := Name.Runs.validate read
    have known := invokes.known ended runs
    have answered := invokes.eq_ofRun runs (Or.inl ended)
    rw [answered] at ended ⊢
    have invalid :=
      @Validate.exitCode_of_not_describes (contextOf store) _ _ present described known ended
    constructor
    · intro success
      cases invalid.symm.trans success
    · rintro ⟨spec, describes, _⟩
      exact absurd ⟨spec, describes⟩ described

end

/-- A command that reports and does not fail ends with the same exit code whether it writes lines or
a record, and a record tells that exit code, with the status of an error exactly if there are
errors, which is if the exit code is not that of success. Validating a file that is there succeeds
if the file holds a description without errors, and without warnings when these count as errors; its
record has, in order, one notice for each error and each warning, and one more for warnings that
count as errors. Words that the command cannot read are a wrong use of the program in both modes.
With settings at hand, the mode does not matter for failing either, and the validation of a
description does not fail. -/
theorem verdict_is_consistent {store : SettingsStore} {words rest : List String} {asked : Bool}
    {name : Name} (invokes : Invokes words asked name rest) (reports : name ≠ .config) :
    let outcome := (run store words).1
    let context := contextOf store
    (∀ twin twinWords twinAsked, Invokes twinWords twinAsked name rest →
      context.SameButMode (contextOf twin) → outcome.failure = none →
      let other := (run twin twinWords).1
      (other.failure = none → other.exitCode = outcome.exitCode) ∧
      (context.HasSettings → other.failure = none)) ∧
    ((¬∃ command, name.Runs rest command) → outcome.failure = none → outcome = .misused) ∧
    ((∃ command, name.Runs rest command) → context.writesRecord asked = true →
      outcome.failure = none →
      ∃ fields status errors, outcome.output = Json.pretty (.map fields) ++ "\n" ∧
        HasTextKeys fields ∧
        lookup? fields "exit_code" = some (.ofInt outcome.exitCode.number) ∧
        lookup? fields "status" = some (.ofText status) ∧
        lookup? fields "errors" = some (.list errors) ∧
        (status = "error" ↔ errors ≠ []) ∧ (errors ≠ [] ↔ outcome.exitCode.number ≠ 0)) ∧
    ∀ query, name = .validate → Validate.Query.ofWords rest = .ok query →
      (∀ path ∈ query.file, store.workspace.probe path = .ok true) →
      (outcome.failure = none → (outcome.exitCode.number = 0 ↔
        ∃ spec, query.description store.workspace = .ok spec ∧ Validate.errorsOf spec = [] ∧
          (query.strict = true → Validate.warningsOf spec = []))) ∧
      ∀ spec, query.description store.workspace = .ok spec →
        (context.HasSettings → outcome.failure = none) ∧
        (outcome.failure = none → context.writesRecord asked = true →
          ∃ fields, outcome.output = Json.pretty (.map fields) ++ "\n" ∧
            HasTextKeys fields ∧
            lookup? fields "errors" = some (.list ((Validate.errorNotices (Validate.errorsOf spec)
              (Validate.warningsOf spec) query.strict).map Notice.toValue)) ∧
            lookup? fields "warnings" = some (.list
              ((Validate.warningsOf spec).map (Notice.toValue ∘ Validate.noticeOf)))) := by
  intro outcome context
  refine ⟨?_, ?_, ?_, ?_⟩
  · intro twin twinWords twinAsked twinInvokes same ended
    constructor
    · exact fun twinEnded => (invokes.alike ended reports twinInvokes same (Or.inl twinEnded)).2
    · intro loaded
      have twinLoaded := same.hasSettings_iff.mp loaded
      exact (invokes.alike ended reports twinInvokes same (Or.inr twinLoaded)).1
  · intro unread ended
    have misused := invokes.misused_of_unread ended reports unread
    exact (congrArg Prod.fst (invokes.run_eq (Or.inl ended))).trans (misused store asked)
  · rintro ⟨command, runs⟩ writes ended
    exact invokes.exists_record ended runs writes
  · rintro query rfl read present
    refine ⟨invokes.succeeds_iff read present, fun spec describes => ⟨?_, ?_⟩⟩
    · intro loaded
      rcases invokes.exists_validation read present describes (Or.inr loaded) with ⟨_, same, _⟩
      exact congrArg Outcome.failure same
    · intro ended writes
      rcases invokes.exists_validation read present describes (Or.inl ended) with
        ⟨report, same, tells⟩
      rw [writes] at tells
      rcases tells.exists_output_eq with ⟨fields, output, shows, _⟩
      refine ⟨fields, (congrArg Outcome.output same).trans output, shows.keys, shows.errors, ?_⟩
      simpa using shows.warnings

/-! ### A file with an error and a warning -/

/-- The path of a file with a catalog. -/
def catalogFile : Path := ⟨"", ["c"]⟩

/-- A catalog in which the name of an extension is also another name, for one that is missing. -/
def faultyText : String := "extensions: [{name: a, feature: +a}]\naliases: {extension: {a: b}}"

/-- The description in the text. -/
def faultySpec : CatalogSpec :=
  ⟨[⟨"a", "+a", none, none, none, leastPriority⟩], [], [], [], .empty,
    AliasTable.empty.insert "a" "b"⟩

/-- A program that starts in a workspace with the faulty catalog and without settings. -/
def faultyStore : SettingsStore :=
  .start ⟨[(catalogFile.names, faultyText)], []⟩ ⟨"", ["s"]⟩ .empty

theorem description_faultyStore :
    CatalogSpec.ofFile faultyStore.workspace catalogFile = .ok faultySpec := by
  have opened : faultyStore.workspace.read catalogFile = .ok faultyText := rfl
  have text : Yaml.read faultyText = .ok (.object [("extensions",
      .list [.object [("name", .ofText "a"), ("feature", .ofText "+a")]]),
      ("aliases", .object [("extension", .object [("a", .ofText "b")])])]) :=
    toOption_eq_some_iff.mp (by decide +kernel)
  simp only [CatalogSpec.ofFile, opened, text, Except.mapError, bind, Except.bind]
  rfl

theorem findings_faultySpec :
    Validate.errorsOf faultySpec = [.aliasTarget .extension "a" "b"] ∧
      Validate.warningsOf faultySpec = [.aliasShadowsName .extension "a"] := by
  decide +kernel

/-- The two runs differ in what they write only: the record of the first has both findings. -/
theorem verdict_is_consistent_faulty :
    let rest := ["--strict", "c"]
    let context := contextOf faultyStore
    let outcome := (run faultyStore ("--json" :: "validate" :: rest)).1
    let other := (run faultyStore ("validate" :: rest)).1
    (Invokes ("--json" :: "validate" :: rest) true .validate rest ∧ Name.validate ≠ .config ∧
      context.writesRecord true = true ∧ context.writesRecord false = false ∧
      outcome.failure = none ∧ other.failure = none) ∧
    other.exitCode = outcome.exitCode ∧
    (∃ fields status errors, outcome.output = Json.pretty (.map fields) ++ "\n" ∧
      HasTextKeys fields ∧
      lookup? fields "exit_code" = some (.ofInt outcome.exitCode.number) ∧
      lookup? fields "status" = some (.ofText status) ∧
      lookup? fields "errors" = some (.list errors) ∧
      (status = "error" ↔ errors ≠ []) ∧ (errors ≠ [] ↔ outcome.exitCode.number ≠ 0)) ∧
    outcome.exitCode.number ≠ 0 ∧
    ∃ fields, outcome.output = Json.pretty (.map fields) ++ "\n" ∧ HasTextKeys fields ∧
      lookup? fields "errors" = some (.list
        [(Validate.noticeOf (.aliasTarget .extension "a" "b")).toValue]) ∧
      lookup? fields "warnings" = some (.list
        [(Validate.noticeOf (.aliasShadowsName .extension "a")).toValue]) := by
  intro rest context outcome other
  have invokes : Invokes ("--json" :: "validate" :: rest) true .validate rest :=
    ⟨⟨[(.json, "")], "validate" :: rest⟩, "validate", rfl, rfl, rfl, rfl, rfl⟩
  have twinInvokes : Invokes ("validate" :: rest) false .validate rest :=
    ⟨⟨[], "validate" :: rest⟩, "validate", rfl, rfl, rfl, rfl, rfl⟩
  have loaded : context.HasSettings := ⟨.default, rfl⟩
  have read : Validate.Query.ofWords rest = .ok ⟨some catalogFile, true⟩ := rfl
  have present : ∀ path ∈ some catalogFile, faultyStore.workspace.probe path = .ok true := by
    rintro _ ⟨⟩
    rfl
  rcases findings_faultySpec with ⟨errors, warnings⟩
  rcases verdict_is_consistent invokes nofun with ⟨anyMode, _, record, validation⟩
  rcases validation _ rfl read present with ⟨succeeds, shows⟩
  rcases shows faultySpec description_faultyStore with ⟨ends, shown⟩
  have ended : outcome.failure = none := ends loaded
  rcases anyMode faultyStore _ false twinInvokes ⟨rfl, rfl⟩ ended with ⟨sameCode, endsToo⟩
  have twinEnded : other.failure = none := endsToo loaded
  have fails : outcome.exitCode.number ≠ 0 := by
    intro success
    rcases (succeeds ended).mp success with ⟨spec, describes, correct, _⟩
    cases describes.symm.trans description_faultyStore
    cases errors.symm.trans correct
  refine ⟨⟨invokes, nofun, rfl, rfl, ended, twinEnded⟩, sameCode twinEnded,
    record ⟨_, .validate read⟩ rfl ended, fails, ?_⟩
  have lists := shown ended rfl
  rw [errors, warnings] at lists
  exact lists

end TargetFeatures.Command
