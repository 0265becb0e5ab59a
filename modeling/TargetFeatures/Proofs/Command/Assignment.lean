import TargetFeatures.Command.Run
import TargetFeatures.Proofs.Settings.Saving

/-!
# Setting a value from the command line

The command looks for a setting with the given name and decides for itself which values it accepts.
It accepts what loading accepts, in the same form (`toOption_checkValue`), so a value that it has
saved is read back as it was accepted, unless halves of a surrogate pair stand side by side in it.

A run ends in one of four ways, with a lemma for each. A value that is refused leaves everything as
it is (`Asks.run_of_refuses`), and so does a file that cannot be written (`Asks.run_of_noRoom`).
Otherwise all settings in force are saved (`Asks.run_of_described`), those from the environment
among them. If their description is lost, though, an empty file is left behind
(`Asks.run_of_undescribed`).

What was done is printed last. So a console that does not print it makes the run fail, but changes
nothing about the file.
-/

namespace TargetFeatures.Command

open Configure

/-! ## What is asked for -/

/-- Whether the words of a run ask for the setting with a name to get a value. -/
def Asks (words : List String) (name value : String) : Prop :=
  ∃ globals rest, Words.read? globalRules false words = some globals ∧
    globals.has .version = false ∧ globals.arguments = "config" :: rest ∧
    Query.ofWords? rest = some ⟨"set", some name, some value⟩

/-- Whether a name is that of a setting which accepts a value, and in what form. -/
def Accepts (name value : String) (key : SettingKey) (accepted : String) : Prop :=
  key.name = name ∧ key.accept? value = some accepted

/-- Whether no setting has a name and accepts a value. -/
def Refuses (name value : String) : Prop := ∀ key accepted, ¬Accepts name value key accepted

theorem asks_of_query {name value : String} {rest : List String}
    (query : Query.ofWords? rest = some ⟨"set", some name, some value⟩) :
    Asks ("config" :: rest) name value := by
  have config : Words.isOptionWord "config" = false := rfl
  exact ⟨⟨[], "config" :: rest⟩, rest, by simp [Words.read?, config], rfl, rfl, query⟩

theorem asks_of_arguments {name value : String} (nameFits : Words.isOptionWord name = false)
    (valueFits : Words.isOptionWord value = false) :
    Asks ["config", "set", name, value] name value := by
  have set : Words.isOptionWord "set" = false := rfl
  have apart : ∀ word, Words.isOptionWord word = false → word ≠ "--" := by
    rintro _ fits rfl
    cases fits
  apply asks_of_query
  simp [Query.ofWords?, Words.read?, Words.withArgument, set, nameFits, valueFits,
    apart name nameFits, apart value valueFits]

/-- Every name and every value can be asked for: two dashes keep them from being read as options. -/
theorem asks_after_dashes (name value : String) :
    Asks ["config", "set", "--", name, value] name value := by
  have set : Words.isOptionWord "set" = false := rfl
  apply asks_of_query
  simp [Query.ofWords?, Words.read?, Words.withArgument, set]

theorem Accepts.isValid {name value accepted : String} {key : SettingKey}
    (accepts : Accepts name value key accepted) : key.IsValid accepted :=
  SettingKey.isValid_of_accept? accepts.2

/-! ## What the command accepts -/

theorem keyOf?_eq_some_iff {name : String} {key : SettingKey} :
    keyOf? name = some key ↔ key.name = name := by
  constructor
  · intro found
    simpa using List.find?_some found
  · rintro rfl
    cases key <;> rfl

theorem eq_of_name_eq {key other : SettingKey} (same : key.name = other.name) : key = other :=
  Option.some.inj ((keyOf?_eq_some_iff.mpr rfl).symm.trans (keyOf?_eq_some_iff.mpr same.symm))

theorem name_ne_empty (key : SettingKey) : key.name ≠ "" := by
  cases key <;> nofun

/-- The command accepts the same values as loading does. -/
theorem toOption_checkValue (key : SettingKey) (value : String) :
    (checkValue key value).toOption = key.accept? value := by
  cases key with
  | catalogPath => rfl
  | negation =>
      by_cases empty : value = "" <;>
        simp [checkValue, SettingKey.accept?, empty, Except.toOption]
  | mode =>
      simp only [checkValue, SettingKey.accept?]
      split <;> rfl
  | logLevel =>
      simp only [checkValue, SettingKey.accept?]
      split <;> rfl

theorem assignment_of_accepts {name value accepted : String} {key : SettingKey}
    (accepts : Accepts name value key accepted) :
    assignment (some name) (some value) = .ok (key, accepted) := by
  rcases accepts with ⟨rfl, taken⟩
  have checked : checkValue key value = .ok accepted :=
    toOption_eq_some_iff.mp ((toOption_checkValue key value).trans taken)
  simp [assignment, name_ne_empty, keyOf?_eq_some_iff.mpr rfl, checked, Except.map]

theorem exists_assignment_of_refuses {name value : String} (refuses : Refuses name value) :
    ∃ refusal, assignment (some name) (some value) = .error refusal := by
  by_cases empty : name = ""
  · subst empty
    exact ⟨.usage, rfl⟩
  cases found : keyOf? name with
  | none => exact ⟨.unknownKey name, by simp [assignment, found]⟩
  | some key =>
      cases checked : checkValue key value with
      | error refusal => exact ⟨refusal, by simp [assignment, found, checked, Except.map]⟩
      | ok accepted =>
          have taken := toOption_checkValue key value
          rw [checked] at taken
          exact absurd ⟨keyOf?_eq_some_iff.mp found, taken.symm⟩ (refuses key accepted)

theorem run_set_of_accepts {name value accepted : String} {key : SettingKey} (console : Console)
    (store : SettingsStore) (accepts : Accepts name value key accepted) :
    Configure.run console store ⟨"set", some name, some value⟩ =
      assign console store key accepted := by
  simp only [Configure.run, assignment_of_accepts accepts]

/-! ## Printing -/

/-- Whether a console prints lines. -/
def Prints (console : Console) (lines : List String) : Prop :=
  ∀ line ∈ lines, (console (line ++ "\n")).isSome

theorem exitCode_printing_of_prints {console : Console} {lines : List String} (exitCode : ExitCode)
    (prints : Prints console lines) :
    (Outcome.printing console exitCode lines).exitCode = exitCode := by
  induction lines with
  | nil => rfl
  | cons line rest ih =>
      rw [Prints, List.forall_mem_cons] at prints
      rcases Option.isSome_iff_exists.mp prints.1 with ⟨shown, printed⟩
      simp only [Outcome.printing, printed]
      exact ih prints.2

theorem exitCode_printing_invalid (console : Console) (lines : List String) :
    (Outcome.printing console .invalid lines).exitCode = .invalid := by
  induction lines with
  | nil => rfl
  | cons line rest ih =>
      rw [Outcome.printing]
      split
      · rfl
      · exact ih

/-! ## Saving what was accepted -/

section

variable (console : Console) {store : SettingsStore} {loaded : LoadedSettings} (key : SettingKey)
  (accepted : String)

theorem settingsOf_eq_ok (inForce : store.get = .ok loaded) :
    settingsOf store = .ok loaded.settings := by
  rw [settingsOf, inForce]
  rfl

theorem assign_of_described (inForce : store.get = .ok loaded)
    (room : store.workspace.HasRoom store.file) (described : loaded.settings.isDescribed) :
    assign console store key accepted =
      .ok (.printing console .success (savedLines store.file key accepted),
        SettingsStore.reset { store with
          workspace := store.workspace.add store.file
            (loaded.settings.set key accepted).fileText }) := by
  have document : (loaded.settings.set key accepted).document =
      .ok (loaded.settings.set key accepted).toValue := by
    simp [Settings.document, described]
  simp only [assign, settingsOf_eq_ok inForce, SettingsStore.save_eq_ok room, document, bind,
    Except.bind, Except.mapError]
  rfl

theorem assign_of_undescribed (inForce : store.get = .ok loaded)
    (room : store.workspace.HasRoom store.file)
    (undescribed : loaded.settings.isDescribed = false) :
    assign console store key accepted =
      .ok (.failed (.settings .undescribed),
        { store with workspace := store.workspace.add store.file "" }) := by
  have document : (loaded.settings.set key accepted).document = .error .undescribed := by
    simp [Settings.document, undescribed]
  have empty : (loaded.settings.set key accepted).fileText = "" := by
    simp [Settings.fileText_of_undescribed, undescribed]
  simp only [assign, settingsOf_eq_ok inForce, SettingsStore.save_eq_ok room, document, empty, bind,
    Except.bind, Except.mapError]
  rfl

theorem exists_assign_of_noRoom (inForce : store.get = .ok loaded)
    (noRoom : ¬store.workspace.HasRoom store.file) :
    ∃ failure, assign console store key accepted = .error failure := by
  cases result : store.save (loaded.settings.set key accepted) with
  | ok saved => exact absurd (SettingsStore.hasRoom_of_save result) noRoom
  | error error =>
      refine ⟨.file error, ?_⟩
      simp only [assign, settingsOf_eq_ok inForce, bind, Except.bind, result, Except.mapError]

end

/-! ## How a run ends -/

namespace Asks

variable (console : Console) {store : SettingsStore} {loaded : LoadedSettings}
  {words : List String} {name value accepted : String} {key : SettingKey}

variable (asks : Asks words name value) (inForce : store.get = .ok loaded)

include asks inForce

theorem exists_runCommand_eq :
    ∃ isRecord rest,
      runOn console store words = runCommand console store isRecord .config rest ∧
      Query.ofWords? rest = some ⟨"set", some name, some value⟩ := by
  rcases asks with ⟨globals, rest, read, noVersion, command, query⟩
  have config : Name.ofText? "config" = some .config := rfl
  exact ⟨globals.has .json, rest, by simp [runOn, read, noVersion, command, config, inForce],
    query⟩

theorem run_of_ok {result : Outcome × SettingsStore}
    (done : Configure.run console store ⟨"set", some name, some value⟩ = .ok result) :
    runOn console store words = result := by
  rcases asks.exists_runCommand_eq console inForce with ⟨isRecord, rest, same, query⟩
  simp [same, runCommand, query, done]

theorem run_of_error {failure : Failure}
    (failed : Configure.run console store ⟨"set", some name, some value⟩ = .error failure) :
    runOn console store words = (.failed failure, store) := by
  rcases asks.exists_runCommand_eq console inForce with ⟨isRecord, rest, same, query⟩
  simp [same, runCommand, query, failed]

theorem run_of_refuses (refuses : Refuses name value) :
    (runOn console store words).1.exitCode = .invalid ∧ (runOn console store words).2 = store := by
  rcases exists_assignment_of_refuses refuses with ⟨refusal, refused⟩
  have done : Configure.run console store ⟨"set", some name, some value⟩ =
      .ok (.printing console .invalid refusal.lines, store) := by
    simp only [Configure.run, refused]
  rw [asks.run_of_ok console inForce done]
  exact ⟨exitCode_printing_invalid console refusal.lines, rfl⟩

section

variable (accepts : Accepts name value key accepted)

include accepts

theorem run_of_noRoom (noRoom : ¬store.workspace.HasRoom store.file) :
    (runOn console store words).1.exitCode = .invalid ∧ (runOn console store words).2 = store := by
  rcases exists_assign_of_noRoom console key accepted inForce noRoom with ⟨failure, failed⟩
  have stopped := (run_set_of_accepts console store accepts).trans failed
  simp [asks.run_of_error console inForce stopped, Outcome.failed]

variable (room : store.workspace.HasRoom store.file)

include room

theorem run_of_undescribed (undescribed : loaded.settings.isDescribed = false) :
    (runOn console store words).1.exitCode = .invalid ∧
      (runOn console store words).2 =
        { store with workspace := store.workspace.add store.file "" } := by
  have saved := assign_of_undescribed console key accepted inForce room undescribed
  have done := (run_set_of_accepts console store accepts).trans saved
  simp [asks.run_of_ok console inForce done, Outcome.failed]

theorem run_of_described (described : loaded.settings.isDescribed) :
    runOn console store words =
      (.printing console .success (savedLines store.file key accepted),
        SettingsStore.reset { store with
          workspace := store.workspace.add store.file
            (loaded.settings.set key accepted).fileText }) := by
  have saved := assign_of_described console key accepted inForce room described
  exact asks.run_of_ok console inForce ((run_set_of_accepts console store accepts).trans saved)

theorem exitCode_of_described (described : loaded.settings.isDescribed)
    (prints : Prints console (savedLines store.file key accepted)) :
    (runOn console store words).1.exitCode = .success := by
  rw [asks.run_of_described console inForce accepts room described]
  exact exitCode_printing_of_prints .success prints

/-- From the empty file that is left behind the defaults are read. -/
theorem reread_of_undescribed (undescribed : loaded.settings.isDescribed = false) :
    let after := (runOn console store words).2
    after.fileText? = some "" ∧
      Settings.load after.nesting after.workspace after.file .empty =
        .ok ⟨.default, [.unreadable store.file]⟩ := by
  intro after
  have left : after = _ := (asks.run_of_undescribed console inForce accepts room undescribed).2
  have empty := room.text?_add ""
  constructor
  · simp only [left, SettingsStore.fileText?, empty]
    rfl
  · simp only [left]
    exact Settings.load_of_empty_text empty

/-- A value that was accepted and saved is read back, and so are the valid ones of the others, if
they are free of pairs. -/
theorem reread_of_described (deep : 2 ≤ store.nesting) (described : loaded.settings.isDescribed) :
    let after := (runOn console store words).2
    ∃ reread, Settings.load after.nesting after.workspace after.file .empty = .ok reread ∧
      (reread.settings.get key = accepted ↔ Text.IsUnpaired accepted) ∧
      ∀ other, other ≠ key → other.IsValid (loaded.settings.get other) →
        (reread.settings.get other = loaded.settings.get other ↔
          Text.IsUnpaired (loaded.settings.get other)) := by
  intro after
  have left : after = _ :=
    congrArg Prod.snd (asks.run_of_described console inForce accepts room described)
  have stillDescribed : (loaded.settings.set key accepted).isDescribed := by simp [described]
  rcases Settings.exists_reload_eq deep stillDescribed room with ⟨reread, read, _, values⟩
  refine ⟨reread, ?_, by simpa [accepts.isValid] using values key, ?_⟩
  · simp only [left]
    exact read
  · intro other distinct valid
    simpa [Settings.get_set_of_ne _ _ distinct, valid] using values other

end

theorem exists_accepts_of_success (succeeded : (runOn console store words).1.exitCode = .success) :
    ∃ key accepted, Accepts name value key accepted ∧ store.workspace.HasRoom store.file ∧
      loaded.settings.isDescribed := by
  by_cases refuses : Refuses name value
  · cases succeeded.symm.trans (asks.run_of_refuses console inForce refuses).1
  simp only [Refuses, not_forall, not_not] at refuses
  rcases refuses with ⟨key, accepted, accepts⟩
  by_cases room : store.workspace.HasRoom store.file
  · cases described : loaded.settings.isDescribed with
    | true => exact ⟨key, accepted, accepts, room, rfl⟩
    | false =>
        have failed := (asks.run_of_undescribed console inForce accepts room described).1
        cases succeeded.symm.trans failed
  · cases succeeded.symm.trans (asks.run_of_noRoom console inForce accepts room).1

end Asks

/-! ## What is read back -/

section

variable {console : Console} {store : SettingsStore} {words : List String} {name value : String}

theorem prints_plain (lines : List String) : Prints .plain lines := fun _ _ => rfl

theorem accepts_mode : Accepts "cli.mode" "agent" .mode "agent" := ⟨rfl, rfl⟩

theorem asks_mode : Asks ["config", "set", "cli.mode", "agent"] "cli.mode" "agent" :=
  asks_of_arguments rfl rfl

/-- A text in which a group is given a description of its fields that is none. -/
def undescribedText : String :=
  "\x7b\"cli\": \x7b\"__dataclass_fields__\": \"x\"\x7d\x7d"

/-- A text that gives a path. -/
def pathText : String := "\x7b\"catalog\": \x7b\"path\": \"a.yaml\"\x7d\x7d"

/-- An environment that sets a prefix. -/
def prefixEnvironment : Environment := .ofVariables [("ARCHEXT_NEGATION_PREFIX", "un")]

/-- A text of a mapping without entries. -/
def noEntriesText : String := "\x7b\x7d"

theorem load_of_noEntriesText (environment : Environment) :
    (Settings.storeWith noEntriesText environment).load =
      .ok (LoadedSettings.start.addEnvironment environment) := by
  have json : Json.read (Settings.fileLimits Settings.usualNesting) noEntriesText =
      .ok (.map []) := by rfl
  exact Settings.load_storeWith json rfl environment

end

end TargetFeatures.Command
