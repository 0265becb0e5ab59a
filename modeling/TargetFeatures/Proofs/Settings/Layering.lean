import TargetFeatures.Proofs.Json.Limits
import TargetFeatures.Proofs.Json.Reading
import TargetFeatures.Settings.Store

/-!
# Layers of settings, field by field

The layers are read one after the other, and each of them entry by entry. What comes out is said
here for each setting on its own: it has the value of its variable if there is an acceptable one,
else that of its field in the file if there is an acceptable one, else its default. So what is wrong
with one setting, or with a group, does not touch the others.

The three folds, over the fields of a group, over the groups and over the variables, are taken
apart in the same way: a lemma says what one entry does to every setting, and an induction says what
all entries do. Keys are distinct in a document that was read, so no later field overrides an
earlier one.

`FileHolds` names the entries of a file: those of the mapping in it, and none when it is not there,
cannot be read or holds no JSON. It does not look at the limits of the reader, which are the one
thing that comes in between: a file that goes beyond them stops the loading.
-/

namespace TargetFeatures

open Value

/-! ## What a layer says about a setting -/

/-- The value that the environment gives a setting: that of a variable that is set, not empty, and
acceptable. -/
def Environment.value? (environment : Environment) (key : SettingKey) : Option String :=
  ((environment key).filter (· ≠ "")).bind key.accept?

namespace SettingKey

/-- The value that the fields of a group give a setting: that of an acceptable text. -/
def valueAmong? (key : SettingKey) (fields : List (Scalar × Value)) : Option String :=
  ((lookup? fields key.field).bind Value.text?).bind key.accept?

/-- The value that a file with the given entries gives a setting: that of its field in its group, if
the group is a mapping. -/
def valueIn? (key : SettingKey) (entries : List (Scalar × Value)) : Option String :=
  match lookup? entries key.group with
  | some (.map fields) => key.valueAmong? fields
  | _ => none

/-- A setting is determined by its group and its field. -/
theorem eq_of_group_of_field {key other : SettingKey} (group : key.group = other.group)
    (field : key.field = other.field) : key = other := by
  cases key <;> cases other <;> simp_all [SettingKey.group, SettingKey.field]

theorem group_mem_groups (key : SettingKey) : key.group ∈ LoadedSettings.groups := by
  cases key <;> decide

/-- An accepted mode is one of the modes, an accepted level one of the levels, and an accepted
negation prefix is not empty. -/
def IsValid : SettingKey → String → Prop
  | .catalogPath, _ => True
  | .negation, value => value ≠ ""
  | .mode, value => value ∈ modes
  | .logLevel, value => value ∈ logLevels

theorem isValid_default (key : SettingKey) : key.IsValid (Settings.default.get key) := by
  cases key <;> simp [IsValid, Settings.default, Settings.get, modes, logLevels]

theorem isValid_of_accept? {key : SettingKey} {text value : String}
    (accepted : key.accept? text = some value) : key.IsValid value := by
  cases key with
  | catalogPath => exact trivial
  | negation =>
      rw [accept?] at accepted
      split at accepted
      · cases accepted
      · next filled => exact Option.some.inj accepted ▸ filled
  | mode =>
      rw [accept?] at accepted
      split at accepted
      · next known => exact Option.some.inj accepted ▸ List.contains_iff_mem.mp known
      · cases accepted
  | logLevel =>
      rw [accept?] at accepted
      split at accepted
      · next known => exact Option.some.inj accepted ▸ List.contains_iff_mem.mp known
      · cases accepted

end SettingKey

namespace LoadedSettings

variable (loaded : LoadedSettings) (file : Path) {group : String}

theorem get_take (key other : SettingKey) (value : Option String) (warning : SettingWarning) :
    (loaded.take key value warning).settings.get other =
      if other = key then value.getD (loaded.settings.get other)
      else loaded.settings.get other := by
  cases value with
  | none => simp [take]
  | some value =>
      by_cases same : other = key
      · subst same
        simp [take]
      · simp [take, same, Settings.get_set_of_ne]

theorem fieldKey?_eq_some_iff {name : String} {key : SettingKey} :
    fieldKey? group (.text name) = some key ↔ key.group = group ∧ key.field = name := by
  constructor
  · intro found
    have test := List.find?_some found
    simp only [Bool.and_eq_true, beq_iff_eq, Scalar.text.injEq] at test
    exact ⟨test.1, test.2.symm⟩
  · rintro ⟨rfl, rfl⟩
    cases key <;> decide

/-! ## The file -/

/-- Whether an entry of a group gives a text to a field that refuses every text. -/
def Refuses (group : String) (entry : Scalar × Value) (error : SettingsError) : Prop :=
  ∃ name text, entry = (.text name, .ofText text) ∧
    ReservedField.ofName? group name = some (.refused error)

/-- Whether a file with the given entries gives a text to a field that refuses every text. -/
def RefusedAmong (entries : List (Scalar × Value)) (error : SettingsError) : Prop :=
  ∃ group ∈ groups, ∃ fields, lookup? entries group = some (.map fields) ∧
    ∃ entry ∈ fields, Refuses group entry error

/-- Whether no field of a group that is read is one of the reserved ones. -/
def Declared (entries : List (Scalar × Value)) : Prop :=
  ∀ group fields, lookup? entries group = some (.map fields) →
    ∀ name value, (.text name, value) ∈ fields → ReservedField.ofName? group name = none

theorem Declared.not_refusedAmong {entries : List (Scalar × Value)} (declared : Declared entries)
    (error : SettingsError) : ¬RefusedAmong entries error := by
  rintro ⟨group, _, fields, found, _, member, name, text, rfl, refused⟩
  rw [declared group fields found name _ member] at refused
  cases refused

theorem ofName?_field (key : SettingKey) : ReservedField.ofName? key.group key.field = none := by
  cases key <;> rfl

theorem Refuses.of_text {name : String} {value : Value} {error : SettingsError}
    (refuses : Refuses group (.text name, value) error) :
    value.text?.isSome ∧ ReservedField.ofName? group name = some (.refused error) := by
  rcases refuses with ⟨_, text, same, refused⟩
  cases same
  exact ⟨rfl, refused⟩

theorem addField_reserved_cases {name : String} (value : Value)
    (unknown : fieldKey? group (.text name) = none) :
    (∃ next, addField file group loaded (.text name, value) = .ok next ∧
      (∀ error, ¬Refuses group (.text name, value) error) ∧
      ∀ key, next.settings.get key = loaded.settings.get key) ∨
    ∃ failure, addField file group loaded (.text name, value) = .error failure ∧
      Refuses group (.text name, value) failure.error := by
  simp only [addField, unknown]
  cases found : ReservedField.ofName? group name with
  | none =>
      refine .inl ⟨loaded, rfl, ?_, fun key => rfl⟩
      intro error refuses
      cases found.symm.trans refuses.of_text.2
  | some field =>
      cases given : value.text? with
      | none =>
          refine .inl ⟨_, rfl, ?_, fun key => rfl⟩
          intro error refuses
          have filled := refuses.of_text.1
          simp [given] at filled
      | some text =>
          cases field with
          | idle =>
              refine .inl ⟨loaded, rfl, ?_, fun key => rfl⟩
              intro error refuses
              cases found.symm.trans refuses.of_text.2
          | description =>
              refine .inl ⟨_, rfl, ?_, fun key => by cases key <;> rfl⟩
              intro error refuses
              cases found.symm.trans refuses.of_text.2
          | refused error =>
              exact .inr ⟨_, rfl, name, text, by rw [text_of_text? given], found⟩

/-- A field gives its setting an acceptable value and leaves the others alone, or it refuses a
text. -/
theorem addField_cases (name : String) (value : Value) :
    (∃ next, addField file group loaded (.text name, value) = .ok next ∧
      (∀ error, ¬Refuses group (.text name, value) error) ∧
      ∀ key, next.settings.get key =
        if key.group = group ∧ key.field = name then
          (value.text?.bind key.accept?).getD (loaded.settings.get key)
        else loaded.settings.get key) ∨
    ∃ failure, addField file group loaded (.text name, value) = .error failure ∧
      Refuses group (.text name, value) failure.error := by
  cases found : fieldKey? group (.text name) with
  | some known =>
      left
      refine ⟨_, by rw [addField, found], ?_, fun key => ?_⟩
      · rw [fieldKey?_eq_some_iff] at found
        rcases found with ⟨rfl, rfl⟩
        intro error refuses
        cases (ofName?_field known).symm.trans refuses.of_text.2
      · rw [fieldKey?_eq_some_iff] at found
        rw [get_take]
        by_cases same : key = known
        · subst same
          rw [if_pos rfl, if_pos found]
        · rw [if_neg same, if_neg]
          rintro ⟨sameGroup, sameField⟩
          exact same (SettingKey.eq_of_group_of_field (sameGroup.trans found.1.symm)
            (sameField.trans found.2.symm))
  | none =>
      apply (addField_reserved_cases loaded file value found).imp_left
      rintro ⟨next, added, accepted, values⟩
      refine ⟨next, added, accepted, fun key => ?_⟩
      rw [values key, if_neg]
      intro matched
      rw [fieldKey?_eq_some_iff.mpr matched] at found
      cases found

theorem addFields_cases {fields : List (Scalar × Value)} (keys : HasTextKeys fields) :
    (∃ next, fields.foldlM (addField file group) loaded = .ok next ∧
      (∀ entry ∈ fields, ∀ error, ¬Refuses group entry error) ∧
      ∀ key, next.settings.get key =
        if key.group = group then (key.valueAmong? fields).getD (loaded.settings.get key)
        else loaded.settings.get key) ∨
    ∃ failure, fields.foldlM (addField file group) loaded = .error failure ∧
      ∃ entry ∈ fields, Refuses group entry failure.error := by
  induction fields generalizing loaded with
  | nil =>
      refine .inl ⟨loaded, rfl, by simp, fun key => ?_⟩
      simp [SettingKey.valueAmong?, lookup?]
  | cons entry rest ih =>
      rcases entry with ⟨first, value⟩
      rcases keys.of_cons with ⟨restKeys, name, rfl, notAgain⟩
      rw [List.foldlM_cons]
      rcases addField_cases loaded file name value with
        ⟨middle, added, accepted, afterFirst⟩ | ⟨failure, failed, refused⟩
      · rw [added]
        apply (ih middle restKeys).imp
        · rintro ⟨next, folded, restAccepted, afterRest⟩
          refine ⟨next, folded, List.forall_mem_cons.mpr ⟨accepted, restAccepted⟩, fun key => ?_⟩
          rw [afterRest key, afterFirst key]
          by_cases sameGroup : key.group = group
          · by_cases sameField : key.field = name
            · subst sameField
              simp [sameGroup, SettingKey.valueAmong?, lookup?_cons, notAgain]
            · simp [sameGroup, sameField, SettingKey.valueAmong?, lookup?_cons, Ne.symm sameField]
          · simp [sameGroup]
        · rintro ⟨failure, folded, other, member, refused⟩
          exact ⟨failure, folded, other, List.mem_cons_of_mem _ member, refused⟩
      · rw [failed]
        exact .inr ⟨failure, rfl, _, List.mem_cons_self, refused⟩

section

variable {entries : List (Scalar × Value)} (document : Json.IsDocument (.map entries))

include document

theorem addGroup_cases (group : String) :
    (∃ next, addGroup file entries loaded group = .ok next ∧
      (∀ fields, lookup? entries group = some (.map fields) →
        ∀ entry ∈ fields, ∀ error, ¬Refuses group entry error) ∧
      ∀ key, next.settings.get key =
        if key.group = group then (key.valueIn? entries).getD (loaded.settings.get key)
        else loaded.settings.get key) ∨
    ∃ failure, addGroup file entries loaded group = .error failure ∧
      ∃ fields, lookup? entries group = some (.map fields) ∧
        ∃ entry ∈ fields, Refuses group entry failure.error := by
  cases document with
  | map keys trees =>
      rw [addGroup]
      split
      · next fields found =>
          cases trees _ (keys.lookup?_eq_some_iff.mp found) with
          | map fieldKeys _ =>
              apply (addFields_cases loaded file fieldKeys).imp
              · rintro ⟨next, folded, accepted, after⟩
                refine ⟨next, folded, fun others same => ?_, fun key => ?_⟩
                · cases found.symm.trans same
                  exact accepted
                · rw [after key]
                  by_cases same : key.group = group
                  · subst same
                    rw [if_pos rfl, if_pos rfl, SettingKey.valueIn?, found]
                  · rw [if_neg same, if_neg same]
              · rintro ⟨failure, folded, refused⟩
                exact ⟨failure, folded, fields, found, refused⟩
      · next other =>
          refine .inl ⟨loaded, rfl, fun fields found => absurd found (other fields), fun key => ?_⟩
          by_cases same : key.group = group
          · subst same
            rw [if_pos rfl, SettingKey.valueIn?]
            split
            · next fields found => exact absurd found (other fields)
            · rfl
          · rw [if_neg same]

theorem addGroups_cases {names : List String} (nodup : names.Nodup) :
    (∃ next, names.foldlM (addGroup file entries) loaded = .ok next ∧
      (∀ group ∈ names, ∀ fields, lookup? entries group = some (.map fields) →
        ∀ entry ∈ fields, ∀ error, ¬Refuses group entry error) ∧
      ∀ key, next.settings.get key =
        if key.group ∈ names then (key.valueIn? entries).getD (loaded.settings.get key)
        else loaded.settings.get key) ∨
    ∃ failure, names.foldlM (addGroup file entries) loaded = .error failure ∧
      ∃ group ∈ names, ∃ fields, lookup? entries group = some (.map fields) ∧
        ∃ entry ∈ fields, Refuses group entry failure.error := by
  induction names generalizing loaded with
  | nil => exact .inl ⟨loaded, rfl, by simp, fun key => rfl⟩
  | cons group rest ih =>
      rw [List.nodup_cons] at nodup
      rw [List.foldlM_cons]
      rcases addGroup_cases loaded file document group with
        ⟨middle, added, accepted, afterFirst⟩ | ⟨failure, failed, refused⟩
      · rw [added]
        apply (ih middle nodup.2).imp
        · rintro ⟨next, folded, restAccepted, afterRest⟩
          refine ⟨next, folded, List.forall_mem_cons.mpr ⟨accepted, restAccepted⟩, fun key => ?_⟩
          rw [afterRest key, afterFirst key]
          by_cases same : key.group = group
          · subst same
            simp [nodup.1]
          · simp [same]
        · rintro ⟨failure, folded, other, member, refused⟩
          exact ⟨failure, folded, other, List.mem_cons_of_mem _ member, refused⟩
      · rw [failed]
        exact .inr ⟨failure, rfl, group, List.mem_cons_self, refused⟩

/-- The layer of a file gives every setting its value in the file, if there is one, unless a field
in it refuses a text. -/
theorem addEntries_cases :
    (∃ next, addEntries loaded file entries = .ok next ∧
      (∀ error, ¬RefusedAmong entries error) ∧
      ∀ key, next.settings.get key = (key.valueIn? entries).getD (loaded.settings.get key)) ∨
    ∃ failure, addEntries loaded file entries = .error failure ∧
      RefusedAmong entries failure.error := by
  have nodup : groups.Nodup := by decide
  apply (addGroups_cases loaded file document nodup).imp_left
  rintro ⟨next, folded, accepted, after⟩
  refine ⟨next, folded, ?_, fun key => ?_⟩
  · rintro error ⟨group, listed, fields, found, entry, member, refused⟩
    exact accepted group listed fields found entry member error refused
  · rw [after key, if_pos key.group_mem_groups]

theorem exists_addEntries_eq (declared : Declared entries) :
    ∃ next, addEntries loaded file entries = .ok next ∧
      ∀ key, next.settings.get key = (key.valueIn? entries).getD (loaded.settings.get key) := by
  rcases addEntries_cases loaded file document with
    ⟨next, added, _, values⟩ | ⟨failure, _, refused⟩
  · exact ⟨next, added, values⟩
  · exact absurd refused (declared.not_refusedAmong failure.error)

end

/-! ## The environment -/

theorem get_addVariable (environment : Environment) (key other : SettingKey) :
    (loaded.addVariable environment key).settings.get other =
      if other = key then (environment.value? key).getD (loaded.settings.get other)
      else loaded.settings.get other := by
  rw [addVariable, Environment.value?]
  split
  · next unset => simp [unset]
  · next empty => simp [empty, Option.filter]
  · next value filled set =>
      have nonempty : value ≠ "" := by
        rintro rfl
        exact filled rfl
      rw [get_take, set, Option.filter, if_pos (decide_eq_true nonempty), Option.bind_some]

theorem get_addVariables (environment : Environment) {keys : List SettingKey} (nodup : keys.Nodup)
    (other : SettingKey) :
    (keys.foldl (addVariable environment) loaded).settings.get other =
      if other ∈ keys then (environment.value? other).getD (loaded.settings.get other)
      else loaded.settings.get other := by
  induction keys generalizing loaded with
  | nil => rfl
  | cons key rest ih =>
      rw [List.nodup_cons] at nodup
      rw [List.foldl_cons, ih _ nodup.2, get_addVariable]
      by_cases same : other = key
      · subst same
        simp [nodup.1]
      · simp [same]

/-- The layer of the environment gives every setting the value of its variable, if there is one. -/
theorem get_addEnvironment (environment : Environment) (key : SettingKey) :
    (loaded.addEnvironment environment).settings.get key =
      (environment.value? key).getD (loaded.settings.get key) := by
  have nodup : SettingKey.all.Nodup := by decide
  have listed : key ∈ SettingKey.all := by cases key <;> decide
  rw [addEnvironment, get_addVariables loaded environment nodup, if_pos listed]

end LoadedSettings

/-! ## All layers -/

/-- A file that can be read is there. -/
theorem Workspace.contains_of_text? (workspace : Workspace) {file : Path} {text : String}
    (opened : workspace.text? file = some text) : workspace.contains file = true := by
  rw [text?] at opened
  split at opened
  · next read =>
      rw [Workspace.read] at read
      rcases bind_eq_ok_iff.mp read with ⟨place, reached, read⟩
      rw [contains, reached]
      split at read
      · cases read
      · split at read
        · next found => simp [found]
        · cases read
  · cases opened

namespace Settings

/-- The value of a setting by its layers: the environment, a file with the given entries, and the
default. -/
def layered (environment : Environment) (entries : List (Scalar × Value)) (key : SettingKey) :
    String :=
  (environment.value? key).getD ((key.valueIn? entries).getD (default.get key))

/-- Whether a file of settings gives the entries of a mapping: those of the mapping that its text
denotes, and none when there is no file, when it cannot be read, or when its text is no JSON. -/
inductive FileHolds (workspace : Workspace) (file : Path) : List (Scalar × Value) → Prop
  | absent (missing : workspace.contains file = false) : FileHolds workspace file []
  | unreadable (found : workspace.contains file = true) (closed : workspace.text? file = none) :
      FileHolds workspace file []
  | malformed {text : String} (opened : workspace.text? file = some text)
      (noJson : Json.read .unlimited text = .error .malformed) : FileHolds workspace file []
  | mapping {text : String} {entries : List (Scalar × Value)}
      (opened : workspace.text? file = some text)
      (json : Json.read .unlimited text = .ok (.map entries)) : FileHolds workspace file entries

/-- Whether nothing in a file of settings is beyond what its reader puts up with. -/
def WithinLimits (nesting : Nat) (workspace : Workspace) (file : Path) : Prop :=
  ∀ text, workspace.text? file = some text →
    ¬Json.GivesUp (fileLimits nesting) (Json.read (fileLimits nesting) text)

theorem isValid_layered (environment : Environment) (entries : List (Scalar × Value))
    (key : SettingKey) : key.IsValid (layered environment entries key) := by
  rw [layered]
  cases fromVariable : environment.value? key with
  | some value =>
      rcases Option.bind_eq_some_iff.mp fromVariable with ⟨text, _, accepted⟩
      exact SettingKey.isValid_of_accept? accepted
  | none =>
      cases fromFile : key.valueIn? entries with
      | some value =>
          rw [SettingKey.valueIn?] at fromFile
          split at fromFile
          · rcases Option.bind_eq_some_iff.mp fromFile with ⟨text, _, accepted⟩
            exact SettingKey.isValid_of_accept? accepted
          · cases fromFile
      | none => exact SettingKey.isValid_default key

theorem load_of_text {nesting : Nat} {workspace : Workspace} {file : Path} {text : String}
    (opened : workspace.text? file = some text) (environment : Environment) :
    load nesting workspace file environment =
      (ofFile nesting file (some text)).map (·.addEnvironment environment) := by
  rw [load, workspace.contains_of_text? opened, if_pos rfl, opened]
  rfl

theorem FileHolds.exists_load_eq {nesting : Nat} {workspace : Workspace} {file : Path}
    {entries : List (Scalar × Value)} (holds : FileHolds workspace file entries)
    (declared : LoadedSettings.Declared entries) (within : WithinLimits nesting workspace file)
    (environment : Environment) :
    ∃ loaded, load nesting workspace file environment = .ok loaded ∧
      ∀ key, loaded.settings.get key = layered environment entries key := by
  have nothing : ∀ key : SettingKey, key.valueIn? [] = none := fun key => rfl
  have fromDefaults : ∀ warnings key,
      (LoadedSettings.addEnvironment ⟨default, warnings⟩ environment).settings.get key =
        layered environment [] key := by
    intro warnings key
    rw [LoadedSettings.get_addEnvironment, layered, nothing]
    rfl
  have sameRead : ∀ text, workspace.text? file = some text →
      Json.read (fileLimits nesting) text = Json.read .unlimited text := fun text opened =>
    (Json.agrees_read (fileLimits nesting) text).resolve_right (within text opened)
  cases holds with
  | absent missing =>
      refine ⟨_, by rw [load, missing]; rfl, fromDefaults []⟩
  | unreadable found closed =>
      refine ⟨_, by rw [load, found, closed]; rfl, fromDefaults [.unreadable file]⟩
  | malformed opened noJson =>
      refine ⟨_, ?_, fromDefaults [.unreadable file]⟩
      rw [load_of_text opened, ofFile, Option.map_some, sameRead _ opened, noJson]
      rfl
  | mapping opened json =>
      rcases LoadedSettings.exists_addEntries_eq .start file
        (Json.isTree_of_read json) declared with ⟨next, added, after⟩
      refine ⟨next.addEnvironment environment, ?_, fun key => ?_⟩
      · rw [load_of_text opened, ofFile, Option.map_some, sameRead _ opened, json]
        dsimp only
        rw [added]
        rfl
      · rw [LoadedSettings.get_addEnvironment, after key]
        rfl

/-- A file with something in it that is beyond the limits stops the loading. -/
theorem load_of_not_withinLimits {nesting : Nat} {workspace : Workspace} {file : Path}
    (beyond : ¬WithinLimits nesting workspace file) (environment : Environment) :
    (∃ count > Numeral.digitLimit,
        load nesting workspace file environment = .error ⟨.longInteger count, []⟩) ∨
      ∃ isMapping,
        load nesting workspace file environment = .error ⟨.deepNesting isMapping, []⟩ := by
  simp only [WithinLimits, not_forall, not_not] at beyond
  rcases beyond with ⟨text, opened, stopped⟩
  rw [load_of_text opened, ofFile, Option.map_some]
  generalize Json.read (fileLimits nesting) text = result at stopped ⊢
  cases stopped with
  | longInteger limited long =>
      cases limited
      exact .inl ⟨_, long, rfl⟩
  | deepNesting limited isMapping => exact .inr ⟨isMapping, rfl⟩

/-- Every setting that is loaded has the value of its own layers, and a file of which the reader
makes nothing leaves the other layers as they are. Only a file that goes beyond the limits of the
reader keeps all settings from being loaded. -/
theorem settings_are_layered {nesting : Nat} {workspace : Workspace} {file : Path}
    {entries : List (Scalar × Value)} (holds : FileHolds workspace file entries)
    (declared : LoadedSettings.Declared entries) (environment : Environment) :
    (WithinLimits nesting workspace file →
      ∃ loaded, load nesting workspace file environment = .ok loaded ∧
        (∀ key, loaded.settings.get key = layered environment entries key) ∧
        loaded.settings.mode ∈ SettingKey.modes ∧
        loaded.settings.logLevel ∈ SettingKey.logLevels ∧ loaded.settings.negation ≠ "") ∧
    (¬WithinLimits nesting workspace file →
      (∃ count > Numeral.digitLimit,
        load nesting workspace file environment = .error ⟨.longInteger count, []⟩) ∨
      ∃ isMapping,
        load nesting workspace file environment = .error ⟨.deepNesting isMapping, []⟩) := by
  refine ⟨fun within => ?_, fun beyond => load_of_not_withinLimits beyond environment⟩
  rcases holds.exists_load_eq declared within environment with ⟨loaded, result, values⟩
  have valid : ∀ key : SettingKey, key.IsValid (loaded.settings.get key) := fun key =>
    values key ▸ isValid_layered environment entries key
  exact ⟨loaded, result, values, valid .mode, valid .logLevel, valid .negation⟩

/-! ### One file in a workspace -/

/-- The workspace in which a file with the given text is the only one. -/
def workspaceWith (text : String) : Workspace := ⟨[(["settings.json"], text)], []⟩

/-- The path of that file. -/
def onlyFile : Path := ⟨"", ["settings.json"]⟩

theorem placeOf_onlyFile (text : String) :
    (workspaceWith text).placeOf onlyFile = .ok ["settings.json"] := by
  have noDefect : onlyFile.defect? = none := rfl
  have short : Text.octetCount "settings.json" = 13 := rfl
  rw [Workspace.placeOf, noDefect]
  simp [onlyFile, Workspace.follow, Workspace.start, Workspace.enter, Workspace.isDirectoryAt,
    Workspace.isGiven, short, longestName, Except.mapError]

theorem text?_workspaceWith (text : String) :
    (workspaceWith text).text? onlyFile = some text := by
  rw [Workspace.text?, Workspace.read, placeOf_onlyFile]
  rfl

/-- A text in which one group is no mapping, one mode is unknown, and one field belongs to no
setting. -/
def mixedText : String :=
  "\x7b\"catalog\": 7, \"resolver\": \x7b\"negation_prefix\": \"no-\", \"comment\": null\x7d, " ++
    "\"cli\": \x7b\"mode\": \"robot\", \"log_level\": \"debug\"\x7d\x7d"

/-- The entries of the mapping that this text denotes. -/
def mixedEntries : List (Scalar × Value) :=
  [(.text "catalog", .ofInt 7),
   (.text "resolver", .object [("negation_prefix", .ofText "no-"), ("comment", .null)]),
   (.text "cli", .object [("mode", .ofText "robot"), ("log_level", .ofText "debug")])]

/-- An environment that sets a mode, an unknown level and an empty path. -/
def mixedEnvironment : Environment := .ofVariables
  [("ARCHEXT_MODE", "agent"), ("ARCHEXT_LOG_LEVEL", "loud"), ("ARCHEXT_CATALOG", "")]

theorem settings_are_layered_mixed :
    FileHolds (workspaceWith mixedText) onlyFile mixedEntries ∧
      LoadedSettings.Declared mixedEntries ∧
      WithinLimits usualNesting (workspaceWith mixedText) onlyFile ∧
      ∃ loaded, load usualNesting (workspaceWith mixedText) onlyFile mixedEnvironment = .ok loaded ∧
        SettingKey.all.map loaded.settings.get = ["", "no-", "agent", "DEBUG"] := by
  have opened := text?_workspaceWith mixedText
  have unlimited : Json.read .unlimited mixedText = .ok (.map mixedEntries) :=
    toOption_eq_some_iff.mp (by decide +kernel)
  have isRead : (Json.read (fileLimits usualNesting) mixedText).isOk := by decide +kernel
  have holds := FileHolds.mapping opened unlimited
  have declared : LoadedSettings.Declared mixedEntries := by
    intro group fields found name value member
    simp only [mixedEntries, lookup?_cons] at found
    split_ifs at found with catalog resolver cli
    · cases found
    · cases found
      subst resolver
      simp only [List.map_cons, List.map_nil, List.mem_cons, List.not_mem_nil, or_false,
        Prod.mk.injEq, Scalar.text.injEq] at member
      rcases member with ⟨rfl, _⟩ | ⟨rfl, _⟩ <;> decide
    · cases found
      subst cli
      simp only [List.map_cons, List.map_nil, List.mem_cons, List.not_mem_nil, or_false,
        Prod.mk.injEq, Scalar.text.injEq] at member
      rcases member with ⟨rfl, _⟩ | ⟨rfl, _⟩ <;> decide
    · cases found
  have within : WithinLimits usualNesting (workspaceWith mixedText) onlyFile := by
    intro text same
    cases opened.symm.trans same
    exact Json.not_givesUp_of_isOk isRead
  rcases (settings_are_layered holds declared mixedEnvironment).1 within with
    ⟨loaded, result, values, _⟩
  refine ⟨holds, declared, within, loaded, result, ?_⟩
  rw [List.map_congr_left fun key _ => values key]
  decide +kernel

/-- An integer with too many digits in an entry that belongs to no group keeps even the environment
from being looked at. -/
theorem long_integer_stops_loading :
    FileHolds (workspaceWith (Json.repunitText 4301)) onlyFile
        [(.text "n", .ofInt (Json.repunit 4301))] ∧
      LoadedSettings.Declared [(.text "n", .ofInt (Json.repunit 4301))] ∧
      layered (.ofVariables [("ARCHEXT_CATALOG", "mine.yaml")])
        [(.text "n", .ofInt (Json.repunit 4301))] .catalogPath = "mine.yaml" ∧
      load usualNesting (workspaceWith (Json.repunitText 4301)) onlyFile
        (.ofVariables [("ARCHEXT_CATALOG", "mine.yaml")]) = .error ⟨.longInteger 4301, []⟩ := by
  have opened := text?_workspaceWith (Json.repunitText 4301)
  have unlimited : Json.read .unlimited (Json.repunitText 4301) =
      .ok (.map [(.text "n", .ofInt (Json.repunit 4301))]) :=
    Json.read_repunitText Json.inner?_unlimited 4300
  have inner : (fileLimits usualNesting).inner? = some ⟨some Numeral.digitLimit, some 979⟩ := rfl
  have limited : Json.read (fileLimits usualNesting) (Json.repunitText 4301) =
      .error (.longInteger 4301) :=
    Json.read_repunitText inner 4300
  refine ⟨.mapping opened unlimited, ?_, by rfl, ?_⟩
  · intro group fields found
    rw [lookup?_cons] at found
    split at found <;> cases found
  · rw [load_of_text opened, ofFile, Option.map_some, limited]
    rfl

end Settings

end TargetFeatures
