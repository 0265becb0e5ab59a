import TargetFeatures.Command.Outcome
import TargetFeatures.Proofs.Data.Document

/-!
# What reports tell

A report keeps its exit code apart from the fields of its record, and the status, the warnings and
the errors are fields among those with data. `Report.Tells` says that they fit together: everything
that a command says keeps it that way, as long as data is not put under the names of those fields.
The exit code is the same whether lines or a record are written, since nothing looks at the record
to decide how to go on (`EndsAlike`).
-/

namespace TargetFeatures.Command

open Value (HasTextKeys lookup?)

/-! ## Records -/

/-- The fields of a record that say how a command ended. -/
def verdictFields : List String := ["status", "warnings", "errors"]

/-- Whether the fields of a record say that a command gave some warnings and errors, and no more. -/
structure Shows (fields : List (Scalar × Value)) (warnings errors : List Notice) : Prop where
  keys : HasTextKeys fields
  status : lookup? fields "status" =
    some (.ofText (if errors.isEmpty then "success" else "error"))
  warnings : lookup? fields "warnings" = some (.list (warnings.map Notice.toValue))
  errors : lookup? fields "errors" = some (.list (errors.map Notice.toValue))

namespace Shows

variable {fields : List (Scalar × Value)} {warnings errors : List Notice}

theorem put (shows : Shows fields warnings errors) {name : String} (other : name ∉ verdictFields)
    (value : Value) : Shows (Value.put fields (.text name) value) warnings errors := by
  simp only [verdictFields, List.mem_cons, List.not_mem_nil, or_false, not_or] at other
  constructor
  · exact shows.keys.put name value
  · simp [shows.keys.lookup?_put, other.1, shows.status]
  · simp [shows.keys.lookup?_put, other.2.1, shows.warnings]
  · simp [shows.keys.lookup?_put, other.2.2, shows.errors]

end Shows

/-! ## Reports -/

/-- Whether a report has some warnings, some errors, and an exit code that fits them. Only a report
that writes a record keeps the lists. -/
structure Report.Tells (report : Report) (isRecord : Bool) (warnings errors : List Notice)
    (exitCode : ExitCode) : Prop where
  form : report.isRecord = isRecord
  code : report.exitCode = exitCode
  succeeds : exitCode = .success ↔ errors = []
  fields : isRecord = true → Shows report.fields warnings errors

namespace Report

variable {report : Report} {isRecord : Bool} {warnings errors : List Notice} {notice : Notice}
  {exitCode failure : ExitCode} {name message : String}

theorem tells_start (isRecord : Bool) : (start isRecord).Tells isRecord [] [] .success := by
  refine ⟨rfl, rfl, by simp, fun _ => ⟨⟨verdictFields, by decide, rfl⟩, ?_, ?_, ?_⟩⟩
  all_goals rfl

/-- A report that differs in what it has printed tells the same. -/
theorem Tells.of_eq {after : Report} (tells : report.Tells isRecord warnings errors exitCode)
    (sameKind : after.isRecord = report.isRecord) (sameFields : after.fields = report.fields)
    (sameCode : after.exitCode = report.exitCode) :
    after.Tells isRecord warnings errors exitCode :=
  ⟨sameKind.trans tells.form, sameCode.trans tells.code, tells.succeeds,
    fun asked => sameFields ▸ tells.fields asked⟩

theorem Tells.print (tells : report.Tells isRecord warnings errors exitCode) (text : String) :
    (report.print text).Tells isRecord warnings errors exitCode := by
  unfold Report.print
  split
  · exact tells
  · exact tells.of_eq rfl rfl rfl

theorem Tells.line (tells : report.Tells isRecord warnings errors exitCode) (text : String) :
    (report.line text).Tells isRecord warnings errors exitCode :=
  tells.print _

theorem Tells.suggest (tells : report.Tells isRecord warnings errors exitCode)
    (notice : Notice) : (report.suggest notice).Tells isRecord warnings errors exitCode := by
  unfold Report.suggest
  split
  · exact tells
  · exact tells
  · exact tells.line _

theorem Tells.set (tells : report.Tells isRecord warnings errors exitCode)
    (other : name ∉ verdictFields) (value : Value) :
    (report.set name value).Tells isRecord warnings errors exitCode :=
  ⟨tells.form, tells.code, tells.succeeds, fun asked => (tells.fields asked).put other value⟩

theorem Tells.success {data : List (String × Value)}
    (tells : report.Tells isRecord warnings errors exitCode)
    (others : ∀ entry ∈ data, entry.1 ∉ verdictFields) :
    (report.success message data).Tells isRecord warnings errors exitCode := by
  unfold Report.success
  split
  · clear * - tells others
    induction data generalizing report with
    | nil => exact tells
    | cons entry rest ih =>
        rw [List.forall_mem_cons] at others
        exact ih (tells.set others.1 entry.2) others.2
  · exact tells.line _

/-! Something doubtful comes to the warnings, and something wrong to the errors. -/

theorem Tells.warn (tells : report.Tells isRecord warnings errors exitCode) :
    (report.warn notice).Tells isRecord (warnings ++ [notice]) errors exitCode := by
  apply Tells.suggest
  apply Tells.line
  unfold Report.add
  split
  · refine ⟨tells.form, tells.code, tells.succeeds, fun asked => ?_⟩
    have shows := tells.fields asked
    constructor
    · exact shows.keys.put _ _
    · simp [Report.set, shows.keys.lookup?_put, shows.status]
    · simp [Report.set, Report.items, shows.keys.lookup?_put, shows.warnings, Value.items?]
    · simp [Report.set, shows.keys.lookup?_put, shows.errors]
  · next lines =>
    refine ⟨tells.form, tells.code, tells.succeeds, fun asked => ?_⟩
    exact absurd (tells.form.trans asked) lines

theorem Tells.addError (tells : report.Tells isRecord warnings errors exitCode)
    (failed : failure ≠ .success) :
    (report.addError notice failure).Tells isRecord warnings (errors ++ [notice]) failure := by
  have unsuccessful : failure = .success ↔ errors ++ [notice] = [] := by simp [failed]
  unfold Report.addError Report.add
  split
  · refine ⟨tells.form, rfl, unsuccessful, fun asked => ?_⟩
    have shows := tells.fields asked
    have keys := shows.keys.put "status" (.ofText "error")
    constructor
    · exact keys.put _ _
    · simp [Report.set, keys.lookup?_put, shows.keys.lookup?_put]
    · simp [Report.set, keys.lookup?_put, shows.keys.lookup?_put, shows.warnings]
    · simp [Report.set, Report.items, keys.lookup?_put, shows.keys.lookup?_put, shows.errors,
        Value.items?]
  · next lines =>
    refine ⟨tells.form, rfl, unsuccessful, fun asked => ?_⟩
    exact absurd (tells.form.trans asked) lines

theorem Tells.fail (tells : report.Tells isRecord warnings errors exitCode)
    (failed : failure ≠ .success) :
    (report.fail notice failure).Tells isRecord warnings (errors ++ [notice]) failure :=
  ((tells.addError failed).line _).suggest _

theorem Tells.failElided (tells : report.Tells isRecord warnings errors exitCode)
    (failed : failure ≠ .success) :
    (report.failElided message failure).Tells isRecord warnings
      (errors ++ [.ofMessage (message ++ elision)]) failure :=
  (tells.addError failed).print _

/-- The output of a finished report is its record, which also has the exit code. -/
theorem Tells.exists_output_eq (tells : report.Tells true warnings errors exitCode) :
    ∃ fields, report.output = Json.pretty (.map fields) ++ "\n" ∧
      Shows fields warnings errors ∧
      lookup? fields "exit_code" = some (.ofInt exitCode.number) := by
  have shows := tells.fields rfl
  refine ⟨_, if_pos tells.form, shows.put (by decide) _, ?_⟩
  simp [Report.set, shows.keys.lookup?_put, tells.code]

/-! ## Two reports -/

/-- Whether two reports, each with its own form, end with the same exit code. -/
def Matches (isRecord twinRecord : Bool) (report twin : Report) : Prop :=
  ∃ warnings errors twinWarnings twinErrors exitCode,
    report.Tells isRecord warnings errors exitCode ∧
    twin.Tells twinRecord twinWarnings twinErrors exitCode

end Report

/-! ## Two runs -/

/-- Whether two runs end alike: both stop or neither does, and where both report, they do so with
the same exit code. -/
def EndsAlike (isRecord twinRecord : Bool) {α : Type} (related : α → α → Prop) :
    Except Stop α → Except Stop α → Prop
  | .ok result, .ok twin => related result twin
  | .error (.reported report), .error (.reported twin) => report.Matches isRecord twinRecord twin
  | .error (.failed _), .error (.failed _) => True
  | _, _ => False

namespace EndsAlike

variable {isRecord twinRecord : Bool} {α β : Type} {related : α → α → Prop}

theorem bind {action twin : Except Stop α} {after : β → β → Prop}
    {next twinNext : α → Except Stop β} (alike : EndsAlike isRecord twinRecord related action twin)
    (step : ∀ result twinResult, related result twinResult →
      EndsAlike isRecord twinRecord after (next result) (twinNext twinResult)) :
    EndsAlike isRecord twinRecord after (action >>= next) (twin >>= twinNext) := by
  cases action with
  | ok result =>
      cases twin with
      | ok twinResult => exact step result twinResult alike
      | error stop => exact alike.elim
  | error stop =>
      cases twin with
      | ok twinResult => cases stop <;> exact alike.elim
      | error twinStop => cases stop <;> cases twinStop <;> exact alike

/-- What can fail in the same way on both sides is only reported differently. -/
theorem mapError {ε : Type} (action : Except ε α) {stop twinStop : ε → Stop}
    (alike : ∀ error, EndsAlike isRecord twinRecord (@Eq α) (.error (stop error))
      (.error (twinStop error))) :
    EndsAlike isRecord twinRecord Eq (action.mapError stop) (action.mapError twinStop) := by
  cases action with
  | ok result => exact rfl
  | error error => exact alike error

variable {left right : Except Stop Report}

theorem outcomes_eq
    (alike : EndsAlike isRecord twinRecord (Report.Matches isRecord twinRecord) left right) :
    (Outcome.ofRun left).exitCode = (Outcome.ofRun right).exitCode ∧
      ((Outcome.ofRun left).failure = none ↔ (Outcome.ofRun right).failure = none) := by
  have reported : ∀ {report twin : Report}, report.Matches isRecord twinRecord twin →
      report.exitCode = twin.exitCode := by
    rintro report twin ⟨_, _, _, _, exitCode, tells, twinTells⟩
    exact tells.code.trans twinTells.code.symm
  rcases left with (failure | report) | report <;> rcases right with (twin | twin) | twin
  all_goals first | exact alike.elim | skip
  · exact ⟨rfl, by simp [Outcome.ofRun, Outcome.failed]⟩
  · exact ⟨reported alike, Iff.rfl⟩
  · exact ⟨reported alike, Iff.rfl⟩

/-- A run that does not fail ends with a report. -/
theorem exists_tells
    (alike : EndsAlike isRecord twinRecord (Report.Matches isRecord twinRecord) left right)
    (ended : (Outcome.ofRun left).failure = none) :
    ∃ report warnings errors exitCode, Outcome.ofRun left = .ofReport report ∧
      report.Tells isRecord warnings errors exitCode := by
  rcases left with (failure | report) | report <;> rcases right with (twin | twin) | twin
  all_goals first | exact alike.elim | skip
  · cases ended
  · rcases alike with ⟨warnings, errors, _, _, exitCode, tells, _⟩
    exact ⟨report, warnings, errors, exitCode, rfl, tells⟩
  · rcases alike with ⟨warnings, errors, _, _, exitCode, tells, _⟩
    exact ⟨report, warnings, errors, exitCode, rfl, tells⟩

end EndsAlike

end TargetFeatures.Command
