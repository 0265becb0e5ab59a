import TargetFeatures.Proofs.Json.Writing
import TargetFeatures.Proofs.Settings.Hindrance
import TargetFeatures.Proofs.Workspace.Writing

/-!
# Saved settings are read back

Settings are saved as a document of all their values and loaded field by field. What comes back is
the value that the field accepts for the saved one (`load_of_fileText`), where JSON has joined the
halves of every surrogate pair. So a setting comes back as it was exactly when it is valid and has
no such halves side by side: then it is accepted as it is, and what is loaded is always valid.
-/

namespace TargetFeatures

open Value

namespace SettingKey

theorem accept?_of_isValid {key : SettingKey} {value : String} (valid : key.IsValid value) :
    key.accept? value = some value := by
  cases key with
  | catalogPath => rfl
  | negation => exact if_neg valid
  | mode => exact if_pos (List.contains_iff_mem.mpr valid)
  | logLevel =>
      have upper : ∀ level ∈ logLevels, Text.uppercase level = level := by
        simp only [logLevels, List.forall_mem_cons, List.not_mem_nil, false_implies, implies_true,
          and_true]
        exact ⟨rfl, rfl, rfl, rfl, rfl⟩
      rw [accept?, upper value valid]
      exact if_pos (List.contains_iff_mem.mpr valid)

theorem isUnpaired_of_mem {word : String} (known : word ∈ modes ++ logLevels) :
    Text.IsUnpaired word := by
  have words : ∀ word ∈ modes ++ logLevels, Text.IsUnpaired word := by decide +kernel
  exact words word known

theorem isUnpaired_of_reread {key : SettingKey} {value : String} (valid : key.IsValid value)
    (same : (key.accept? (Text.joined value)).getD (Settings.default.get key) = value) :
    Text.IsUnpaired value := by
  cases key with
  | catalogPath => exact Text.joined_eq_self_iff.mp same
  | negation =>
      rw [accept?] at same
      split at same
      · rw [← same]
        decide +kernel
      · exact Text.joined_eq_self_iff.mp same
  | mode => exact isUnpaired_of_mem (List.mem_append_left _ valid)
  | logLevel => exact isUnpaired_of_mem (List.mem_append_right _ valid)

end SettingKey

namespace LoadedSettings

variable (loaded : LoadedSettings)

@[simp]
theorem isDescribed_take (key : SettingKey) (value : Option String) (warning : SettingWarning) :
    (loaded.take key value warning).settings.isDescribed = loaded.settings.isDescribed := by
  cases value <;> simp [take]

theorem isDescribed_addEnvironment (environment : Environment) :
    (loaded.addEnvironment environment).settings.isDescribed = loaded.settings.isDescribed := by
  have one : ∀ (loaded : LoadedSettings) key,
      (loaded.addVariable environment key).settings.isDescribed = loaded.settings.isDescribed := by
    intro loaded key
    rw [addVariable]
    split <;> simp
  simp only [addEnvironment, SettingKey.all, List.foldl_cons, List.foldl_nil, one]

end LoadedSettings

namespace Settings

/-! ## The document of settings -/

/-- The entries of the document of settings. -/
def entries (settings : Settings) : List (Scalar × Value) :=
  fieldsOf
    [("catalog", .object [("path", .ofText settings.catalogPath)]),
     ("resolver", .object [("negation_prefix", .ofText settings.negation)]),
     ("cli", .object
       [("mode", .ofText settings.mode), ("log_level", .ofText settings.logLevel)])]

theorem toValue_eq (settings : Settings) : settings.toValue = .map settings.entries := rfl

theorem isTextTree_toValue (settings : Settings) : Json.IsTextTree 2 settings.toValue := by
  have unpaired : ∀ name ∈ ["catalog", "resolver", "cli", "path", "negation_prefix", "mode",
      "log_level"], Text.IsUnpaired name := by decide +kernel
  simp only [List.forall_mem_cons, List.not_mem_nil, false_implies, implies_true, and_true]
    at unpaired
  apply Json.isTextTree_object (by simp) (by simp [unpaired])
  simp only [List.forall_mem_cons, List.not_mem_nil, false_implies, implies_true, and_true]
  refine ⟨?catalog, ?resolver, ?cli⟩
  all_goals
    exact Json.isTextTree_object (by simp) (by simp [unpaired]) (by simp [Json.IsTextTree.text])

/-- Settings in whose values the halves of every pair are joined. -/
def joined (settings : Settings) : Settings :=
  { settings with
    catalogPath := Text.joined settings.catalogPath
    negation := Text.joined settings.negation
    mode := Text.joined settings.mode
    logLevel := Text.joined settings.logLevel }

@[simp]
theorem get_joined (settings : Settings) (key : SettingKey) :
    settings.joined.get key = Text.joined (settings.get key) := by
  cases key <;> rfl

theorem joinedTexts_toValue (settings : Settings) :
    Json.joinedTexts settings.toValue = settings.joined.toValue := rfl

theorem read_fileText {nesting : Nat} (deep : 2 ≤ nesting) {settings : Settings}
    (described : settings.isDescribed) :
    Json.read (fileLimits nesting) settings.fileText = .ok (.map settings.joined.entries) := by
  have room : (fileLimits nesting).Allow 2 := by
    intro most same
    cases same
    exact deep
  rw [fileText, document, if_pos described, ← toValue_eq, ← joinedTexts_toValue]
  exact settings.isTextTree_toValue.read_eq room .indented

theorem addEntries_entries (settings : Settings) (file : Path) :
    LoadedSettings.start.addEntries file settings.entries =
      .ok (SettingKey.all.foldl (fun loaded key =>
        loaded.take key (key.accept? (settings.get key))
          (.refusedField file key.name (.ofText (settings.get key)))) .start) := rfl

theorem valueIn?_entries (settings : Settings) (key : SettingKey) :
    key.valueIn? settings.entries = key.accept? (settings.get key) := by
  cases key <;> rfl

/-! ## Loading what was saved -/

theorem value?_empty (key : SettingKey) : Environment.empty.value? key = none := rfl

section

variable {nesting : Nat} {workspace : Workspace} {file : Path}

theorem get_of_load_empty {loaded : LoadedSettings}
    (result : load nesting workspace file .empty = .ok loaded) (key : SettingKey) :
    loaded.settings.get key =
      (key.valueIn? (entriesOf nesting (workspace.text? file))).getD (default.get key) := by
  simp [get_of_load result, layered, value?_empty]

variable (deep : 2 ≤ nesting) {settings : Settings} (described : settings.isDescribed)

include deep described

theorem load_of_fileText (saved : workspace.text? file = some settings.fileText)
    (environment : Environment) :
    ∃ loaded, load nesting workspace file environment = .ok loaded ∧
      loaded.settings.isDescribed ∧
      ∀ key, loaded.settings.get key =
        (environment.value? key).getD
          ((key.accept? (Text.joined (settings.get key))).getD (default.get key)) := by
  have text := read_fileText deep described
  have result : load nesting workspace file environment = _ := load_of_text saved environment
  rw [ofFile, Option.map_some, text] at result
  dsimp only at result
  rw [addEntries_entries] at result
  refine ⟨_, result, ?_, fun key => ?_⟩
  · rw [LoadedSettings.isDescribed_addEnvironment]
    simp [SettingKey.all, LoadedSettings.start, default]
  · rw [get_of_load result, saved]
    simp only [entriesOf, Option.map_some, text, layered, valueIn?_entries, get_joined]

/-- Settings that were written out are loaded again, and those values come back that are valid and
free of pairs. -/
theorem exists_reload_eq (room : workspace.HasRoom file) :
    ∃ loaded, load nesting (workspace.add file settings.fileText) file .empty = .ok loaded ∧
      loaded.settings.isDescribed ∧
      ∀ key, loaded.settings.get key = settings.get key ↔
        key.IsValid (settings.get key) ∧ Text.IsUnpaired (settings.get key) := by
  rcases load_of_fileText deep described (room.text?_add _) .empty with
    ⟨loaded, result, stillDescribed, values⟩
  refine ⟨loaded, result, stillDescribed, ?_⟩
  intro key
  constructor
  · intro same
    have valid : key.IsValid (settings.get key) := by
      rw [← same, get_of_load result]
      exact isValid_layered _ _ key
    exact ⟨valid, SettingKey.isUnpaired_of_reread valid ((values key).symm.trans same)⟩
  · rintro ⟨valid, unpaired⟩
    simp [values key, value?_empty, Text.joined_of_isUnpaired unpaired,
      SettingKey.accept?_of_isValid valid]

end

theorem fileText_of_undescribed {settings : Settings} (undescribed : settings.isDescribed = false) :
    settings.fileText = "" := by
  simp [fileText, document, undescribed]

/-- From an empty file nothing but the defaults is loaded. -/
theorem load_of_empty_text {nesting : Nat} {workspace : Workspace} {file : Path}
    (opened : workspace.text? file = some "") :
    load nesting workspace file .empty = .ok ⟨default, [.unreadable file]⟩ := by
  have noJson : Json.read (fileLimits nesting) "" = .error .malformed := by rfl
  rw [load_of_text opened, ofFile, Option.map_some, noJson]
  rfl

end Settings

namespace SettingsStore

theorem get_of_fresh {store : SettingsStore} {loaded : LoadedSettings}
    (fresh : store.inForce = none) (result : store.load = .ok loaded) :
    store.get = .ok loaded := by
  rw [get, fresh]
  exact result

theorem save_eq_ok {store : SettingsStore} (room : store.workspace.HasRoom store.file)
    (settings : Settings) :
    store.save settings =
      .ok { store with workspace := store.workspace.add store.file settings.fileText } := by
  rw [save, room.write_eq_ok]
  rfl

theorem hasRoom_of_save {store saved : SettingsStore} {settings : Settings}
    (result : store.save settings = .ok saved) : store.workspace.HasRoom store.file := by
  rcases bind_eq_ok_iff.mp result with ⟨after, written, _⟩
  exact Workspace.HasRoom.of_write written

end SettingsStore

namespace Settings

/-- A store at the start of a program, whose file is the only one of a workspace. -/
def storeWith (text : String) (environment : Environment) : SettingsStore :=
  .start (workspaceWith text) onlyFile environment

theorem deep_storeWith (text : String) (environment : Environment) :
    2 ≤ (storeWith text environment).nesting :=
  (by decide : 2 ≤ usualNesting)

theorem hasRoom_storeWith (text : String) (environment : Environment) :
    (storeWith text environment).workspace.HasRoom (storeWith text environment).file := by
  rcases Workspace.of_placeOf (placeOf_onlyFile text) with ⟨accepted, _, short⟩
  exact ⟨accepted, short, by simp [storeWith, SettingsStore.start, onlyFile, Path.parent,
    Workspace.placesAlong], rfl⟩

theorem load_storeWith {text : String} {entries : List (Scalar × Value)} {loaded : LoadedSettings}
    (json : Json.read (fileLimits usualNesting) text = .ok (.map entries))
    (added : LoadedSettings.start.addEntries onlyFile entries = .ok loaded)
    (environment : Environment) :
    (storeWith text environment).load = .ok (loaded.addEnvironment environment) := by
  rw [SettingsStore.load, storeWith, SettingsStore.start, load_of_text (text?_workspaceWith text),
    ofFile, Option.map_some, json]
  dsimp only
  rw [added]
  rfl

/-- Valid settings with a path that consists of the two halves of a pair. -/
def halvesSettings : Settings :=
  { default with catalogPath := String.ofList [Text.ofUnit 0xD800, Text.ofUnit 0xDC00] }

/-- A text that gives a mode, and takes the description of its group away. -/
def undescribedModeText : String :=
  "\x7b\"cli\": \x7b\"mode\": \"agent\", \"__dataclass_fields__\": \"x\"\x7d\x7d"

theorem get_undescribedMode :
    (storeWith undescribedModeText .empty).get =
      .ok ⟨{ default with mode := "agent", isDescribed := false }, []⟩ := by
  have json : Json.read (fileLimits usualNesting) undescribedModeText =
      .ok (.object [("cli", .object
        [("mode", .ofText "agent"), ("__dataclass_fields__", .ofText "x")])]) :=
    toOption_eq_some_iff.mp (by decide +kernel)
  exact SettingsStore.get_of_fresh rfl (load_storeWith json rfl .empty)

end Settings
end TargetFeatures
