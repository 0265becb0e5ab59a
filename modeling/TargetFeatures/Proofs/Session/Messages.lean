import TargetFeatures.Proofs.Session.Visits

/-!
# What a session logs

The messages about one extension tell when it was switched on and off. `Event.swing` follows them:
it says whether the extension is enabled after a message, and has no answer where a message tells a
change that cannot have happened. Every step is followed to the state that it leaves
(`Step.Tracks`), also one that fails, and so is every session. So the messages about an extension
are by turns that it was enabled and that it was disabled.
-/

namespace TargetFeatures.Session

open State

/-! ## Messages about one extension -/

namespace Event

variable {event : Event} {events : List Event} {name other : String} {on next : Bool}

/-- Whether a message tells a change of the extension with a name. -/
def isAbout (name : String) : Event → Bool
  | .enabled other => other == name
  | .disabled other => other == name
  | _ => false

/-- The message about the next change of an extension that is enabled or not. -/
def turn (name : String) (on : Bool) : Event := if on then .disabled name else .enabled name

/-- Whether an extension that was enabled or not is enabled after a message; there is no answer when
the message is not that about its next change. -/
def swing (name : String) (on : Bool) (event : Event) : Option Bool :=
  if event.isAbout name then if event = turn name on then some !on else none else some on

theorem swing_of_not_isAbout (apart : event.isAbout name = false) :
    event.swing name on = some on := by
  simp [swing, apart]

theorem swing_turn : (turn name on).swing name on = some !on := by
  cases on <;> simp [swing, turn, isAbout]

theorem swing_cases (followed : event.swing name on = some next) :
    event.isAbout name = false ∧ next = on ∨
      event.isAbout name = true ∧ event = turn name on ∧ next = !on := by
  rw [swing] at followed
  split at followed
  · next about =>
      split at followed
      · next here => exact Or.inr ⟨about, here, (Option.some.inj followed).symm⟩
      · cases followed
  · next apart => exact Or.inl ⟨Bool.eq_false_of_not_eq_true apart, (Option.some.inj followed).symm⟩

/-- Messages that can be followed tell the two changes by turns. -/
theorem getElem?_filter_of_foldlM {after : Bool}
    (followed : events.foldlM (swing name) on = some after) {position : Nat}
    (found : (events.filter (isAbout name))[position]? = some event) :
    event = turn name (on ^^ position % 2 == 1) := by
  induction events generalizing on position with
  | nil => simp at found
  | cons first rest ih =>
      rw [List.foldlM_cons, Option.bind_eq_bind, Option.bind_eq_some_iff] at followed
      rcases followed with ⟨next, here, followed⟩
      rcases swing_cases here with ⟨apart, rfl⟩ | ⟨about, rfl, rfl⟩
      · rw [List.filter_cons_of_neg (by simp [apart])] at found
        exact ih followed found
      · rw [List.filter_cons_of_pos about] at found
        cases position with
        | zero =>
            rw [List.getElem?_cons_zero, Option.some.injEq] at found
            rw [← found, Nat.zero_mod]
            cases on <;> rfl
        | succ position =>
            rw [ih followed found]
            congr 1
            rcases Nat.mod_two_eq_zero_or_one position with even | odd
            · simp [Nat.add_mod, even]
            · simp [Nat.add_mod, odd]

end Event

/-! ## Following a step -/

/-- Whether the messages of a step tell how it changes the extension with an id and a name. -/
def Step.Tracks (id : Nat) (name : String) (before : State) (step : Step) : Prop :=
  step.events.foldlM (Event.swing name) (before.enabled.testBit id) =
    some (step.state.enabled.testBit id)

namespace Step.Tracks

variable {id : Nat} {name : String} {before : State} {step : Step}

theorem of_nil (same : step.state.enabled.testBit id = before.enabled.testBit id)
    (silent : step.events = []) : step.Tracks id name before := by
  rw [Tracks, silent, same]
  rfl

theorem of_singleton {event : Event} (same : step.state.enabled = before.enabled)
    (single : step.events = [event]) (apart : event.isAbout name = false) :
    step.Tracks id name before := by
  rw [Tracks, single, same, List.foldlM_cons, Event.swing_of_not_isAbout apart]
  rfl

theorem andThen {following : State → Step} (tracks : step.Tracks id name before)
    (after : (following step.state).Tracks id name step.state) :
    (step.andThen following).Tracks id name before := by
  rw [Step.andThen]
  split
  · exact tracks
  · rw [Tracks, List.foldlM_append, tracks]
    exact after

end Step.Tracks

namespace Direction

variable {direction : Direction} {catalog : ExtensionCatalog} {events : List Event}
  {visited : List Nat} {id : Nat} {name other : String} {on : Bool}

theorem turn_not_target : Event.turn name (!direction.target) = direction.event name := by
  cases direction <;> rfl

theorem isAbout_event : (direction.event other).isAbout name = (other == name) := by
  cases direction <;> rfl

section

variable (distinct : catalog.names.Nodup) (named : catalog.names[id]? = some name)

include distinct named

theorem name_eq_iff {extension : Extension} {first : Nat}
    (found : catalog.get? first = some extension) : extension.name = name ↔ first = id := by
  have here : catalog.names[first]? = some extension.name := by
    rw [ExtensionCatalog.names, List.getElem?_map]
    exact congrArg (Option.map Extension.name) found
  constructor
  · rintro rfl
    exact (List.getElem?_inj (List.getElem?_eq_some_iff.mp here).1 distinct).mp
      (here.trans named.symm)
  · rintro rfl
    exact Option.some.inj (here.symm.trans named)

variable (logs : Logs catalog direction events visited)

include logs

/-- Messages about other extensions change nothing about one. -/
theorem foldlM_swing_of_not_mem (absent : id ∉ visited) :
    events.foldlM (Event.swing name) on = some on := by
  induction logs with
  | nil => rfl
  | cons about _ ih =>
      rcases about with ⟨extension, found, rfl⟩
      rw [List.mem_cons, not_or] at absent
      have elsewhere := mt (name_eq_iff distinct named found).mp (Ne.symm absent.1)
      rw [List.foldlM_cons, Event.swing_of_not_isAbout (by simp [isAbout_event, elsewhere])]
      exact ih absent.2

/-- A message about an extension that is logged once tells its change. -/
theorem foldlM_swing_of_mem (nodup : visited.Nodup) (member : id ∈ visited) :
    events.foldlM (Event.swing name) (!direction.target) = some direction.target := by
  induction logs with
  | nil => cases member
  | cons about logs ih =>
      rcases about with ⟨extension, found, rfl⟩
      rw [List.nodup_cons] at nodup
      rw [List.foldlM_cons]
      by_cases same : extension.name = name
      · have here := (name_eq_iff distinct named found).mp same
        subst here
        rw [same, ← turn_not_target, Event.swing_turn, Bool.not_not]
        exact foldlM_swing_of_not_mem distinct named logs nodup.1
      · rw [Event.swing_of_not_isAbout (by simp [isAbout_event, same])]
        rcases List.mem_cons.mp member with here | later
        · exact absurd ((name_eq_iff distinct named found).mpr here.symm) same
        · exact ih nodup.2 later

theorem tracks_of_visits {roots : List Nat} {before : State} {step : Step}
    (same : step.events = events)
    (visits : Visits catalog direction roots before step.state visited) :
    step.Tracks id name before := by
  have settled := visits.settled id
  rw [Step.Tracks, same]
  by_cases member : id ∈ visited
  · have unsettled := Bool.eq_not.mpr (visits.unsettled id member)
    rw [unsettled, settled.mpr (Or.inr member)]
    exact foldlM_swing_of_mem distinct named logs visits.nodup member
  · have unchanged : step.state.enabled.testBit id = before.enabled.testBit id := by
      simp only [member, or_false, IsSettled] at settled
      cases direction <;> simp_all [target]
    rw [unchanged]
    exact foldlM_swing_of_not_mem distinct named logs member

end

end Direction

/-! ## Following a session -/

/-- The messages of a list of operations. -/
def trace (session : Session) : List Operation → List Event
  | [] => []
  | operation :: rest => (session.perform operation).events ++ (session.apply operation).trace rest

section

variable {catalog : ExtensionCatalog} (accepted : catalog.Accepted) {id : Nat} {name : String}
  (named : catalog.names[id]? = some name)

include accepted named

theorem tracks_step (direction : Direction) (number : Nat) (state : State) :
    (direction.step catalog number state).Tracks id name state := by
  by_cases below : number < catalog.size
  · rcases takes_step accepted below direction with ⟨_, visited, calls, runs, logs⟩
    exact Direction.tracks_of_visits accepted.nodup_names named logs rfl runs.visits.1
  · -- A number beyond the catalog is switched without a message, and is not that of the extension.
    have beyond := Nat.not_lt.mp below
    have bound : id < catalog.size := by
      have listed := (List.getElem?_eq_some_iff.mp named).1
      rwa [ExtensionCatalog.names, List.length_map] at listed
    have apart : number ≠ id := by omega
    cases direction with
    | enabling =>
        rw [Direction.step, enable_of_size_le beyond]
        exact .of_nil (by simp [testBit_switchOn, apart]) rfl
    | disabling =>
        rw [Direction.step, disable_of_size_le beyond]
        exact .of_nil (by simp [testBit_switchOff, apart]) rfl

theorem tracks_enableEach (ids : List Nat) (state : State) :
    (enableEach catalog ids state).Tracks id name state := by
  induction ids generalizing state with
  | nil => exact .of_nil rfl rfl
  | cons first rest ih => exact (tracks_step accepted named .enabling first state).andThen (ih _)

theorem tracks_seed (architecture : Architecture) (mask : Int) (state : State) :
    (state.seed catalog architecture mask).Tracks id name state := by
  refine Step.Tracks.andThen ?_ (tracks_enableEach accepted named _ _)
  rw [setBase]
  split
  · exact .of_nil rfl rfl
  · split
    · exact .of_nil rfl rfl
    · exact .of_singleton rfl rfl rfl

end

section

variable {session : Session} (accepted : session.catalog.Accepted) {id : Nat} {name : String}
  (named : session.catalog.names[id]? = some name)

include accepted named

theorem tracks_onId (direction : Direction) (number : Int) (state : State) :
    (onId number (direction.step session.catalog) state).Tracks id name state := by
  rw [onId]
  split
  · exact .of_nil rfl rfl
  · exact tracks_step accepted named direction _ _

theorem tracks_perform (operation : Operation) :
    (session.perform operation).Tracks id name session.state := by
  cases operation with
  | enable number => exact tracks_onId accepted named .enabling number _
  | disable number => exact tracks_onId accepted named .disabling number _
  | modifier token =>
      rw [perform, applyModifier_eq]
      dsimp only
      split
      · exact .of_singleton rfl rfl rfl
      · split
        · exact tracks_step accepted named .disabling _ _
        · exact tracks_step accepted named .enabling _ _
  | archDefaults architecture => exact tracks_seed accepted named _ _ _
  | cpuDefaults processor => exact tracks_seed accepted named _ _ _

/-- The messages of any operations, failing ones included, tell how they change an extension. -/
theorem foldlM_swing_trace (operations : List Operation) :
    (session.trace operations).foldlM (Event.swing name) (session.state.enabled.testBit id) =
      some ((session.run operations).state.enabled.testBit id) := by
  induction operations generalizing session with
  | nil => rfl
  | cons operation rest ih =>
      rw [trace, List.foldlM_append, tracks_perform accepted named operation]
      have kept : (session.apply operation).catalog.Accepted := accepted
      exact ih kept named

/-- The messages about an extension that was not enabled tell its changes by turns. -/
theorem event_of_trace (off : ¬session.state.IsOn id) (operations : List Operation)
    {position : Nat} {event : Event}
    (found : ((session.trace operations).filter (Event.isAbout name))[position]? = some event) :
    event = if position % 2 = 0 then .enabled name else .disabled name := by
  have followed := foldlM_swing_trace accepted named operations
  rw [Bool.eq_false_of_not_eq_true off] at followed
  rw [Event.getElem?_filter_of_foldlM followed found, Bool.false_xor]
  rcases Nat.mod_two_eq_zero_or_one position with even | odd
  · rw [even]
    rfl
  · rw [odd]
    rfl

end

/-- The operation that asks for a decision. -/
def Direction.operation : Direction → Int → Operation
  | enabling => .enable
  | disabling => .disable

/-- A decision about an extension does not fail. It logs, once each, the extensions that it changes
and nothing else, its own extension first and every other one after an extension that leads to it
directly; and it takes as many calls as it logs messages, or one if it logs none. Over a whole
session the messages about one extension are by turns that it was enabled and that it was
disabled. -/
theorem each_extension_is_visited_once {session : Session} (accepted : session.catalog.Accepted) :
    (∀ (direction : Direction) (id : Nat), id < session.catalog.size →
      let step := session.perform (direction.operation id)
      step.failure = none ∧ ∃ visited,
        Direction.Logs session.catalog direction step.events visited ∧ visited.Nodup ∧
        (∀ other, other ∈ visited ↔
          direction.IsSettled step.state other ∧ ¬direction.IsSettled session.state other) ∧
        (∀ first rest, visited = first :: rest → first = id) ∧
        (∀ earlier other later, visited = earlier ++ other :: later → other = id ∨
          ∃ parent ∈ earlier, other ∈ direction.neighbours session.catalog parent) ∧
        ∀ after changed calls,
          Direction.Runs session.catalog direction (.call id) session.state after changed calls ↔
            after = step.state ∧ changed = visited ∧ calls = max 1 visited.length) ∧
    ∀ negation fresh, start? session.catalog negation = some fresh →
      ∀ operations, ∀ name ∈ session.catalog.names, ∀ (position : Nat) event,
        ((fresh.trace operations).filter (Event.isAbout name))[position]? = some event →
          event = if position % 2 = 0 then .enabled name else .disabled name := by
  refine ⟨fun direction id below => ?_, ?_⟩
  · have asked : session.perform (direction.operation id) =
        direction.step session.catalog id session.state := by
      cases direction with
      | enabling => exact onId_natCast id (State.enable session.catalog) session.state
      | disabling => exact onId_natCast id (State.disable session.catalog) session.state
    rw [asked]
    obtain ⟨finished, visited, calls, runs, logs⟩ :
        Direction.Takes session.catalog direction (.call id)
        session.state (direction.step session.catalog id session.state) :=
      takes_step accepted below direction
    rcases runs.visits with ⟨visits, count⟩
    have ordered : ∀ earlier other later, visited = earlier ++ other :: later → other = id ∨
        ∃ parent ∈ earlier, other ∈ direction.neighbours session.catalog parent := by
      simpa [Part.roots] using visits.ordered
    refine ⟨finished, visited, logs, visits.nodup, fun _ => visits.mem_iff, ?_, ordered, ?_⟩
    · intro first rest same
      rcases ordered [] first rest same with here | ⟨_, member, _⟩
      · exact here
      · cases member
    · intro after changed number
      constructor
      · exact fun again => count ▸ runs.unique again
      · rintro ⟨rfl, rfl, rfl⟩
        exact count ▸ runs
  · intro negation fresh started operations name known position event found
    have same := eq_of_start? started
    subst same
    rcases List.mem_iff_getElem?.mp known with ⟨id, named⟩
    exact @event_of_trace ⟨session.catalog, negation, .start⟩ accepted id name named not_isOn_start
      operations position event found

theorem each_extension_is_visited_once_small :
    let catalog := ExtensionCatalog.small
    let step := small.perform (.enable 2)
    let operations : List Operation :=
      [.enable 2, .disable 1, .archDefaults smallArchitecture, .disable 0]
    let messages := (small.trace operations).filter (Event.isAbout "simd")
    catalog.Accepted ∧ 2 < catalog.size ∧ start? catalog "no-" = some small ∧
    "simd" ∈ catalog.names ∧ messages[3]? = some (.disabled "simd") ∧
    (step.failure = none ∧ ∃ visited,
      Direction.Logs catalog .enabling step.events visited ∧ visited.Nodup ∧
      (∀ other, other ∈ visited ↔ step.state.IsOn other ∧ ¬small.state.IsOn other) ∧
      (∀ first rest, visited = first :: rest → first = 2) ∧
      (∀ earlier other later, visited = earlier ++ other :: later → other = 2 ∨
        ∃ parent ∈ earlier, other ∈ catalog.prerequisites parent) ∧
      ∀ after changed calls,
        Direction.Runs catalog .enabling (.call 2) small.state after changed calls ↔
          after = step.state ∧ changed = visited ∧ calls = max 1 visited.length) ∧
    Event.disabled "simd" = if 3 % 2 = 0 then .enabled "simd" else .disabled "simd" := by
  intro catalog step operations messages
  have below : 2 < catalog.size := by decide
  have known : "simd" ∈ catalog.names := by decide
  have fourth : messages[3]? = some (.disabled "simd") := by
    change ((small.trace [.enable 2, .disable 1, .archDefaults smallArchitecture,
      .disable 0]).filter (Event.isAbout "simd"))[3]? = some (.disabled "simd")
    cbv
  have visited := @each_extension_is_visited_once small ExtensionCatalog.accepted_small
  exact ⟨ExtensionCatalog.accepted_small, below, started_small, known, fourth,
    visited.1 .enabling 2 below,
    visited.2 "no-" small started_small operations "simd" known 3 _ fourth⟩

end TargetFeatures.Session
