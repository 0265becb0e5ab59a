import TargetFeatures.Command.Run
import TargetFeatures.Proofs.Command.Reporting

/-!
# Lines and records

Resolving and validating write a report as lines or as a record, and end with the same exit code
either way. The two ways are followed side by side: they start from reports that say nothing, look
at the same files, and stop at the same step (`Name.Runs.alike`). What a validation makes of its
findings is said outright (`Validate.tells_addFindings`).
-/

namespace TargetFeatures.Command

open Value (HasTextKeys lookup?)

variable {isRecord twinRecord : Bool} {report twin : Report}

/-! ## Contexts -/

namespace Context

/-- Whether two contexts differ in nothing but the mode that the settings have. -/
structure SameButMode (context twin : Context) : Prop where
  workspace : context.workspace = twin.workspace
  settings : context.settings.toOption.map (·.set .mode "human") =
    twin.settings.toOption.map (·.set .mode "human")

/-- Whether the settings were loaded. -/
def HasSettings (context : Context) : Prop := ∃ settings, context.settings = .ok settings

/-- Whether a command writes a record, because it is asked to or because the settings say so. -/
def writesRecord (context : Context) (asked : Bool) : Bool :=
  asked || context.settings.toOption.map Settings.mode == some "agent"

variable {context other : Context} {asked otherAsked : Bool}

/-- A command that knows whether to write a record starts with an empty report. -/
theorem startReport_cases :
    (asked = true ∨ context.HasSettings) ∧
        context.startReport asked = .ok (.start (context.writesRecord asked)) ∨
      asked = false ∧ ¬context.HasSettings ∧
        ∃ failure, context.startReport asked = .error (.failed failure) := by
  cases asked with
  | true => exact Or.inl ⟨Or.inl rfl, rfl⟩
  | false =>
      cases loaded : context.settings with
      | error error =>
          refine Or.inr ⟨rfl, by simp [HasSettings, loaded], .settings error, ?_⟩
          simp [startReport, loadedSettings, loaded, Except.mapError, bind, Except.bind]
      | ok settings =>
          refine Or.inl ⟨Or.inr ⟨settings, loaded⟩, ?_⟩
          simp [startReport, loadedSettings, loaded, Except.mapError, bind, Except.bind,
            writesRecord, Except.toOption]
          rfl

theorem startReport_eq (known : asked = true ∨ context.HasSettings) :
    context.startReport asked = .ok (.start (context.writesRecord asked)) := by
  rcases @startReport_cases context asked with ⟨_, start⟩ | ⟨silent, unloaded, _⟩
  · exact start
  · simp [silent, unloaded] at known

variable (same : context.SameButMode other)

include same

/-- The settings of both contexts were loaded, or those of neither. -/
theorem SameButMode.settings_cases :
    (∃ left right, context.settings = .ok left ∧ other.settings = .ok right ∧
        left.catalogPath = right.catalogPath ∧ left.negation = right.negation) ∨
      (∃ error, context.settings = .error error) ∧ ∃ error, other.settings = .error error := by
  have agree := same.settings
  cases here : context.settings <;> cases there : other.settings
  all_goals simp [here, there, Except.toOption] at agree
  · exact Or.inr ⟨⟨_, rfl⟩, ⟨_, rfl⟩⟩
  · simp only [Settings.set, Settings.mk.injEq] at agree
    exact Or.inl ⟨_, _, rfl, rfl, agree.1, agree.2.1⟩

theorem SameButMode.hasSettings_iff : context.HasSettings ↔ other.HasSettings := by
  unfold HasSettings
  rcases same.settings_cases with ⟨_, _, here, there, _⟩ | ⟨⟨_, here⟩, ⟨_, there⟩⟩
  · simp [here, there]
  · simp [here, there]

theorem SameButMode.alike_loadedSettings :
    EndsAlike isRecord twinRecord
      (fun left right => left.catalogPath = right.catalogPath ∧ left.negation = right.negation)
      context.loadedSettings other.loadedSettings := by
  unfold loadedSettings
  rcases same.settings_cases with ⟨left, right, here, there, agree⟩ | ⟨⟨_, here⟩, ⟨_, there⟩⟩
  · rw [here, there]
    exact agree
  · rw [here, there]
    trivial

/-- If the settings cannot be loaded, the two only start alike when both are asked for the same. -/
theorem SameButMode.alike_startReport
    (known : asked = otherAsked ∨ context.HasSettings) :
    EndsAlike isRecord twinRecord
      (fun report twin => report = .start (context.writesRecord asked) ∧
        twin = .start (other.writesRecord otherAsked))
      (context.startReport asked) (other.startReport otherAsked) := by
  have loaded := same.hasSettings_iff
  rcases @startReport_cases context asked with ⟨settled, start⟩ | ⟨silent, unloaded, _, start⟩ <;>
    rcases @startReport_cases other otherAsked with
      ⟨otherSettled, otherStart⟩ | ⟨otherSilent, otherUnloaded, _, otherStart⟩
  all_goals rw [start, otherStart]
  · exact ⟨rfl, rfl⟩
  · simp_all
  · simp_all
  · trivial

end Context

/-! ## Stopping with a report -/

section

variable (tells : report.Tells isRecord [] [] .success)
  (twinTells : twin.Tells twinRecord [] [] .success)

include tells twinTells

/-- Two reports that say nothing yet match after each of them failed. -/
theorem Report.Matches.of_fail {failure : ExitCode} (notice twinNotice : Notice)
    (failed : failure ≠ .success) :
    (report.fail notice failure).Matches isRecord twinRecord (twin.fail twinNotice failure) :=
  ⟨_, _, _, _, failure, tells.fail failed, twinTells.fail failed⟩

/-! ## Resolving -/

namespace Resolve

theorem alike_stopFor (error : SourceError) :
    EndsAlike isRecord twinRecord (@Eq LoadedCatalog) (.error (stopFor report error))
      (.error (stopFor twin error)) := by
  cases error with
  | catalog error => exact .of_fail tells twinTells _ _ nofun
  | spec error =>
      cases error with
      | defects found => exact .of_fail tells twinTells _ _ nofun
      | file error => trivial
      | text error =>
          cases error with
          | malformed => exact .of_fail tells twinTells _ _ nofun
          | _ => trivial

theorem alike_stopForRequest (error : Session.ResolveError) :
    EndsAlike isRecord twinRecord (@Eq Session) (.error (stopForRequest report error))
      (.error (stopForRequest twin error)) := by
  cases error with
  | unknownArchitecture => exact .of_fail tells twinTells _ _ nofun
  | unknownProcessor => exact .of_fail tells twinTells _ _ nofun
  | unknownModifier => exact .of_fail tells twinTells _ _ nofun
  | _ => trivial

theorem alike_catalogFor {context other : Context} (same : context.SameButMode other)
    (path : Option Path) :
    EndsAlike isRecord twinRecord Eq (catalogFor context report path)
      (catalogFor other twin path) := by
  have taken : ∀ loaded : Except SourceError LoadedCatalog, EndsAlike isRecord twinRecord Eq
      (do return (← loaded.mapError (stopFor report)).catalog)
      (do return (← loaded.mapError (stopFor twin)).catalog) := by
    intro loaded
    apply (EndsAlike.mapError loaded (alike_stopFor tells twinTells)).bind
    rintro source _ rfl
    exact rfl
  unfold catalogFor
  rw [← same.workspace]
  cases path with
  | none =>
      apply same.alike_loadedSettings.bind
      rintro left right ⟨sameCatalog, _⟩
      rw [sameCatalog]
      exact taken _
  | some path =>
      dsimp only
      split
      · exact taken _
      · exact .of_fail tells twinTells _ _ nofun
      · trivial

end Resolve

/-! ## Validating -/

namespace Validate

theorem alike_stopFor (error : SpecError) :
    EndsAlike isRecord twinRecord (@Eq CatalogSpec) (.error (stopFor report error))
      (.error (stopFor twin error)) := by
  cases error with
  | defects found => exact ⟨_, _, _, _, _, tells.failElided nofun, twinTells.failElided nofun⟩
  | file error => trivial
  | text error =>
      cases error with
      | malformed => exact ⟨_, _, _, _, _, tells.failElided nofun, twinTells.failElided nofun⟩
      | _ => trivial

theorem alike_subjectFor (workspace : Workspace) (file : Option Path) :
    EndsAlike isRecord twinRecord Eq (subjectFor workspace report file)
      (subjectFor workspace twin file) := by
  cases file with
  | none => exact rfl
  | some path =>
      unfold subjectFor
      dsimp only
      split
      · apply (EndsAlike.mapError _ (alike_stopFor tells twinTells)).bind
        rintro spec _ rfl
        exact rfl
      · exact .of_fail tells twinTells _ _ nofun
      · trivial

end Validate

end

/-! ## Findings -/

namespace Validate

variable {errors warnings : List Finding} {strict : Bool} {context : Context}

/-- The notice about warnings that count as errors. -/
def strictNotices (errors warnings : List Finding) (strict : Bool) : List Notice :=
  if errors.isEmpty && strict && !warnings.isEmpty then
    [.ofMessage (warningCount warnings ++ " with --strict")]
  else []

/-- The notices about what is wrong. -/
def errorNotices (errors warnings : List Finding) (strict : Bool) : List Notice :=
  errors.map noticeOf ++ strictNotices errors warnings strict

/-- The exit code of a validation that found something wrong or did not. -/
def codeFor (wrong : List Notice) : ExitCode := if wrong.isEmpty then .success else .invalid

theorem errorNotices_eq_nil_iff :
    errorNotices errors warnings strict = [] ↔ errors = [] ∧ (strict = true → warnings = []) := by
  cases strict <;> by_cases correct : errors = [] <;> simp [errorNotices, strictNotices, correct]

theorem codeFor_eq_success_iff {wrong : List Notice} : codeFor wrong = .success ↔ wrong = [] := by
  cases wrong <;> simp [codeFor]

theorem tells_failEach {doubtful wrong : List Notice}
    (tells : report.Tells isRecord doubtful wrong (codeFor wrong)) (errors : List Finding) :
    (errors.foldl (fun report finding => report.fail (noticeOf finding) .invalid) report).Tells
      isRecord doubtful (wrong ++ errors.map noticeOf)
      (codeFor (wrong ++ errors.map noticeOf)) := by
  induction errors generalizing report wrong with
  | nil => simpa using tells
  | cons error rest ih =>
      rw [List.foldl_cons, List.map_cons, List.append_cons]
      apply ih
      have invalid : codeFor (wrong ++ [noticeOf error]) = .invalid := by simp [codeFor]
      rw [invalid]
      exact tells.fail nofun

theorem tells_warnEach {doubtful wrong : List Notice} {exitCode : ExitCode}
    (tells : report.Tells isRecord doubtful wrong exitCode) (warnings : List Finding) :
    (warnings.foldl (fun report finding => report.warn (noticeOf finding)) report).Tells
      isRecord (doubtful ++ warnings.map noticeOf) wrong exitCode := by
  induction warnings generalizing report doubtful with
  | nil => simpa using tells
  | cons warning rest ih =>
      rw [List.foldl_cons, List.map_cons, List.append_cons]
      exact ih tells.warn

theorem tells_addVerdict {doubtful : List Notice}
    (tells : report.Tells isRecord doubtful (errors.map noticeOf) (codeFor (errors.map noticeOf))) :
    (addVerdict report errors warnings strict).Tells isRecord doubtful
      (errorNotices errors warnings strict) (codeFor (errorNotices errors warnings strict)) := by
  unfold addVerdict errorNotices strictNotices
  cases errors with
  | cons error rest => simpa using tells
  | nil =>
      simp only [List.isEmpty_nil, Bool.not_true, Bool.true_and, Bool.false_eq_true, if_false]
      split
      · exact tells.fail nofun
      · rw [List.append_nil]
        exact tells.success nofun

/-- A validation reports a warning for each finding that is none, and an error for each that is one,
in order; and one more error when the warnings count as errors. -/
theorem tells_addFindings (tells : report.Tells isRecord [] [] .success) (findings : List Finding)
    (strict : Bool) :
    let errors := findings.filter Finding.isError
    let warnings := findings.filter (!Finding.isError ·)
    (addFindings report findings strict).Tells isRecord (warnings.map noticeOf)
      (errorNotices errors warnings strict) (codeFor (errorNotices errors warnings strict)) := by
  intro errors warnings
  have other : "validation" ∉ verdictFields := by decide
  have noted := tells.set other (findingsValue errors warnings)
  exact tells_addVerdict (tells_warnEach (tells_failEach noted errors) warnings)

end Validate

/-! ## Commands -/

section

variable {context other : Context} {asked otherAsked : Bool} (same : context.SameButMode other)
  (known : asked = otherAsked ∨ context.HasSettings)

include same known

theorem Resolve.alike_run (query : Resolve.Query) :
    EndsAlike (context.writesRecord asked) (other.writesRecord otherAsked)
      (Report.Matches (context.writesRecord asked) (other.writesRecord otherAsked))
      (Resolve.run context asked query) (Resolve.run other otherAsked query) := by
  apply (same.alike_startReport known).bind
  rintro report twin ⟨rfl, rfl⟩
  have tells := Report.tells_start (context.writesRecord asked)
  have twinTells := Report.tells_start (other.writesRecord otherAsked)
  apply (Resolve.alike_catalogFor tells twinTells same query.catalog).bind
  rintro catalog _ rfl
  apply same.alike_loadedSettings.bind
  rintro left right ⟨_, sameNegation⟩
  rw [sameNegation]
  apply (EndsAlike.mapError _ (Resolve.alike_stopForRequest tells twinTells)).bind
  rintro session _ rfl
  split
  · exact ⟨_, _, _, _, _, (tells.success (by simp [verdictFields])).line _,
      (twinTells.success (by simp [verdictFields])).line _⟩
  · trivial

theorem Validate.alike_run (query : Validate.Query) :
    EndsAlike (context.writesRecord asked) (other.writesRecord otherAsked)
      (Report.Matches (context.writesRecord asked) (other.writesRecord otherAsked))
      (Validate.run context asked query) (Validate.run other otherAsked query) := by
  apply (same.alike_startReport known).bind
  rintro report twin ⟨rfl, rfl⟩
  have tells := Report.tells_start (context.writesRecord asked)
  have twinTells := Report.tells_start (other.writesRecord otherAsked)
  rw [← same.workspace]
  apply (Validate.alike_subjectFor tells twinTells context.workspace query.file).bind
  rintro subject _ rfl
  have other : "catalog_file" ∉ verdictFields := by decide
  exact ⟨_, _, _, _, _,
    Validate.tells_addFindings (tells.success (by simpa using other)) _ _,
    Validate.tells_addFindings (twinTells.success (by simpa using other)) _ _⟩

end

/-- Whether words stand for a query of a command that reports, and what the command runs for it. -/
inductive Name.Runs : Name → List String → (Context → Bool → Except Stop Report) → Prop
  | resolve {words : List String} {query : Resolve.Query}
      (read : Resolve.Query.ofWords words = .ok query) :
      Runs .resolve words fun context asked => Resolve.run context asked query
  | validate {words : List String} {query : Validate.Query}
      (read : Validate.Query.ofWords words = .ok query) :
      Runs .validate words fun context asked => Validate.run context asked query

namespace Name.Runs

variable {name : Name} {words : List String} {command : Context → Bool → Except Stop Report}
  {context other : Context} {asked otherAsked : Bool}

theorem alike (runs : name.Runs words command) (same : context.SameButMode other)
    (known : asked = otherAsked ∨ context.HasSettings) :
    EndsAlike (context.writesRecord asked) (other.writesRecord otherAsked)
      (Report.Matches (context.writesRecord asked) (other.writesRecord otherAsked))
      (command context asked) (command other otherAsked) := by
  cases runs with
  | resolve => exact Resolve.alike_run same known _
  | validate => exact Validate.alike_run same known _

/-- A command that ended was asked for a record, or has read the settings. -/
theorem known_of_ended (runs : name.Runs words command)
    (ended : (Outcome.ofRun (command context asked)).failure = none) :
    asked = true ∨ context.HasSettings := by
  rcases @Context.startReport_cases context asked with ⟨known, _⟩ | ⟨_, _, failure, stopped⟩
  · exact known
  · have failed : command context asked = .error (.failed failure) := by
      cases runs with
      | resolve => simp [Resolve.run, stopped, bind, Except.bind]
      | validate => simp [Validate.run, stopped, bind, Except.bind]
    rw [failed] at ended
    cases ended

theorem exists_tells (runs : name.Runs words command)
    (ended : (Outcome.ofRun (command context asked)).failure = none) :
    ∃ report warnings errors exitCode, Outcome.ofRun (command context asked) = .ofReport report ∧
      report.Tells (context.writesRecord asked) warnings errors exitCode :=
  (runs.alike ⟨rfl, rfl⟩ (Or.inl rfl)).exists_tells ended

end Name.Runs

end TargetFeatures.Command
