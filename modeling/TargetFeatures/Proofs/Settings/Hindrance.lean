import TargetFeatures.Proofs.Settings.Layering

/-!
# What keeps settings from being loaded

A file of settings need not be usable: if its text is no JSON, it is set aside, and so is everything
in it that no setting takes. `Hinders` lists what is not set aside, and stops the loading instead: a
document that is no mapping, what is beyond the limits of the reader, and a text for one of the
fields of a group that refuse every text. The environment has no part in it, because the file is
read first.
-/

namespace TargetFeatures.Settings

open Value

/-- What in the text of a file keeps settings from being loaded. -/
inductive Hinders (nesting : Nat) (text : String) : SettingsError → Prop
  | longInteger {count : Nat}
      (stopped : Json.read (fileLimits nesting) text = .error (.longInteger count)) :
      Hinders nesting text (.longInteger count)
  | deepNesting {isMapping : Bool}
      (stopped : Json.read (fileLimits nesting) text = .error (.deepNesting isMapping)) :
      Hinders nesting text (.deepNesting isMapping)
  | notMapping {document : Value} (json : Json.read (fileLimits nesting) text = .ok document)
      (other : ∀ entries, document ≠ .map entries) : Hinders nesting text (.notMapping document)
  | refused {entries : List (Scalar × Value)} {error : SettingsError}
      (json : Json.read (fileLimits nesting) text = .ok (.map entries))
      (given : LoadedSettings.RefusedAmong entries error) : Hinders nesting text error

/-- The entries that the text of a file gives settings: those of the mapping that is read from it,
and none when there is no text, or none of a mapping. -/
def entriesOf (nesting : Nat) (text : Option String) : List (Scalar × Value) :=
  match text.map (Json.read (fileLimits nesting)) with
  | some (.ok (.map entries)) => entries
  | _ => []

theorem ofFile_cases (nesting : Nat) (file : Path) (text : Option String) :
    (∃ loaded, ofFile nesting file text = .ok loaded ∧
      (∀ known ∈ text, ∀ error, ¬Hinders nesting known error) ∧
      ∀ key, loaded.settings.get key =
        (key.valueIn? (entriesOf nesting text)).getD (default.get key)) ∨
    ∃ failure, ofFile nesting file text = .error failure ∧
      ∃ known ∈ text, Hinders nesting known failure.error := by
  cases text with
  | none => exact .inl ⟨_, rfl, by simp, fun key => rfl⟩
  | some text =>
      simp only [ofFile, entriesOf, Option.map_some, Option.mem_def, Option.some.injEq,
        forall_eq', exists_eq_left']
      cases json : Json.read (fileLimits nesting) text with
      | error error =>
          cases error with
          | malformed =>
              refine .inl ⟨_, rfl, ?_, fun key => rfl⟩
              intro error hinders
              cases hinders <;> simp_all
          | longInteger count => exact .inr ⟨_, rfl, .longInteger json⟩
          | deepNesting isMapping => exact .inr ⟨_, rfl, .deepNesting json⟩
      | ok document =>
          cases document with
          | map entries =>
              apply (LoadedSettings.addEntries_cases .start file (Json.isTree_of_read json)).imp
              · rintro ⟨loaded, added, accepted, values⟩
                refine ⟨loaded, added, ?_, values⟩
                intro error hinders
                cases hinders with
                | longInteger stopped => cases json.symm.trans stopped
                | deepNesting stopped => cases json.symm.trans stopped
                | notMapping other apart =>
                    cases json.symm.trans other
                    exact apart entries rfl
                | refused again given =>
                    cases json.symm.trans again
                    exact accepted error given
              · rintro ⟨failure, failed, given⟩
                exact ⟨failure, failed, .refused json given⟩
          | _ =>
              refine .inr ⟨_, rfl, .notMapping json ?_⟩
              intro entries same
              cases same

theorem load_eq (nesting : Nat) (workspace : Workspace) (file : Path) (environment : Environment) :
    load nesting workspace file environment =
      if workspace.contains file then
        (ofFile nesting file (workspace.text? file)).map (·.addEnvironment environment)
      else .ok (LoadedSettings.start.addEnvironment environment) := by
  rw [load]
  split <;> rfl

/-- Settings are loaded, each with the value of its own layers, or something in the file keeps them
from being loaded. -/
theorem load_cases (nesting : Nat) (workspace : Workspace) (file : Path)
    (environment : Environment) :
    (∃ loaded, load nesting workspace file environment = .ok loaded ∧
      (∀ text ∈ workspace.text? file, ∀ error, ¬Hinders nesting text error) ∧
      ∀ key, loaded.settings.get key =
        layered environment (entriesOf nesting (workspace.text? file)) key) ∨
    ∃ failure, load nesting workspace file environment = .error failure ∧
      ∃ text ∈ workspace.text? file, Hinders nesting text failure.error := by
  rw [load_eq]
  split
  · apply (ofFile_cases nesting file (workspace.text? file)).imp
    · rintro ⟨loaded, read, free, values⟩
      refine ⟨_, by rw [read]; rfl, free, fun key => ?_⟩
      rw [LoadedSettings.get_addEnvironment, values, layered]
    · rintro ⟨failure, failed, hindered⟩
      exact ⟨failure, by rw [failed]; rfl, hindered⟩
  · next missing =>
      have unread : workspace.text? file = none := by
        rw [Option.eq_none_iff_forall_ne_some]
        exact fun text opened => missing (workspace.contains_of_text? opened)
      rw [unread]
      refine .inl ⟨_, rfl, by simp, fun key => ?_⟩
      rw [LoadedSettings.get_addEnvironment]
      rfl

section

variable {nesting : Nat} {workspace : Workspace} {file : Path} {environment : Environment}
  {loaded : LoadedSettings}

theorem get_of_load (result : load nesting workspace file environment = .ok loaded)
    (key : SettingKey) :
    loaded.settings.get key =
      layered environment (entriesOf nesting (workspace.text? file)) key := by
  rcases load_cases nesting workspace file environment with
    ⟨found, same, _, values⟩ | ⟨failure, failed, _⟩
  · cases result.symm.trans same
    exact values key
  · cases result.symm.trans failed

/-- Whether settings are loaded does not depend on the environment. -/
theorem exists_load_of_load (result : load nesting workspace file environment = .ok loaded)
    (other : Environment) : ∃ loaded, load nesting workspace file other = .ok loaded := by
  rcases load_cases nesting workspace file other with
    ⟨found, read, _, _⟩ | ⟨_, _, text, opened, hinders⟩
  · exact ⟨found, read⟩
  · rcases load_cases nesting workspace file environment with
      ⟨_, _, free, _⟩ | ⟨failure, failed, _⟩
    · exact absurd hinders (free text opened _)
    · cases result.symm.trans failed

/-- Whatever a file holds, settings are loaded from it unless one of the listed hindrances is in it,
and then each of them has the value of its variable, else the one that the usable part of the file
gives it, else its default. -/
theorem only_hindrances_stop_loading {text : String}
    (opened : workspace.text? file = some text) (environment : Environment) :
    ((∃ loaded, load nesting workspace file environment = .ok loaded) ↔
        ∀ error, ¬Hinders nesting text error) ∧
      (∀ failure, load nesting workspace file environment = .error failure →
        Hinders nesting text failure.error) ∧
      ∀ loaded, load nesting workspace file environment = .ok loaded →
        ∀ key, loaded.settings.get key =
          layered environment (entriesOf nesting (some text)) key := by
  have cases := load_cases nesting workspace file environment
  simp only [opened, Option.mem_def, Option.some.injEq, forall_eq', exists_eq_left'] at cases
  rcases cases with ⟨loaded, result, free, values⟩ | ⟨failure, result, hinders⟩
  · rw [result]
    refine ⟨⟨fun _ => free, fun _ => ⟨loaded, rfl⟩⟩, nofun, ?_⟩
    intro other same
    cases same
    exact values
  · rw [result]
    refine ⟨⟨nofun, fun free => absurd hinders (free failure.error)⟩, ?_, nofun⟩
    intro other same
    cases same
    exact hinders

end

/-- A text in which a group is given a kind of its own, next to a mode that could be used. -/
def kindText : String :=
  "\x7b\"cli\": \x7b\"mode\": \"agent\", \"__class__\": \"terminal\"\x7d\x7d"

theorem only_hindrances_stop_loading_kind :
    (workspaceWith kindText).text? onlyFile = some kindText ∧
      Hinders usualNesting kindText .kindOfGroup ∧
      ¬∃ loaded, load usualNesting (workspaceWith kindText) onlyFile .empty = .ok loaded := by
  have opened := text?_workspaceWith kindText
  have json : Json.read (fileLimits usualNesting) kindText =
      .ok (.object [("cli", .object
        [("mode", .ofText "agent"), ("__class__", .ofText "terminal")])]) :=
    toOption_eq_some_iff.mp (by decide +kernel)
  have hinders : Hinders usualNesting kindText .kindOfGroup := by
    apply Hinders.refused json
    exact ⟨"cli", by decide, _, rfl, _, by simp, "__class__", "terminal", rfl, rfl⟩
  refine ⟨opened, hinders, ?_⟩
  intro loaded
  exact (only_hindrances_stop_loading opened .empty).1.mp loaded _ hinders

/-- A file that holds an empty list keeps even the environment from being looked at. -/
theorem list_stops_loading :
    load usualNesting (workspaceWith "[]") onlyFile
        (.ofVariables [("ARCHEXT_CATALOG", "mine.yaml")]) =
        .error ⟨.notMapping (.list []), []⟩ ∧
      layered (.ofVariables [("ARCHEXT_CATALOG", "mine.yaml")]) [] .catalogPath = "mine.yaml" := by
  have json : Json.read (fileLimits usualNesting) "[]" = .ok (.list []) := by rfl
  refine ⟨?_, by rfl⟩
  rw [load_of_text (text?_workspaceWith "[]"), ofFile, Option.map_some, json]
  rfl

end TargetFeatures.Settings
