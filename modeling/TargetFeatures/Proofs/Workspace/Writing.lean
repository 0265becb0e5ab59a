import TargetFeatures.Proofs.Data.Failure
import TargetFeatures.Workspace.Basic

/-!
# Files are read back

`HasRoom` says when a file can be put at a path. Exactly then writing it succeeds (`write_eq_ok`,
`of_write`), and it is read afterwards with the text that it was given (`text?_add`).
-/

namespace TargetFeatures.Workspace

variable {workspace : Workspace} {path : Path}

/-- Whether a file can be put at a path: the system takes the path, no file stands where one of its
directories has to be, and once they are there none of them is where the file is to stand. -/
structure HasRoom (workspace : Workspace) (path : Path) : Prop where
  accepted : path.defect? = none
  short : ∀ name ∈ path.names, Text.octetCount name ≤ longestName
  passable : ∀ place ∈ placesAlong (start path) path.parent.names,
    workspace.isFileAt place = false
  vacant : (workspace.addDirectory path.parent).isDirectoryAt
    (path.names.foldl enter (start path)) = false

theorem isDirectoryAt_start (workspace : Workspace) (path : Path) :
    workspace.isDirectoryAt (start path) = true := by
  rw [isDirectoryAt, start]
  split <;> simp [isGiven]

theorem isDirectoryAt_addDirectory_iff {place : Place} :
    (workspace.addDirectory path).isDirectoryAt place ↔
      workspace.isDirectoryAt place ∨ place ∈ placesAlong (start path) path.names := by
  simp [isDirectoryAt, addDirectory, or_assoc]

theorem mem_placesAlong_of_dropLast {here place : Place} {names : List String}
    (member : place ∈ placesAlong here names.dropLast) : place ∈ placesAlong here names := by
  induction names generalizing here with
  | nil => exact member
  | cons name rest ih =>
      cases rest with
      | nil => cases member
      | cons next rest =>
          rw [List.dropLast_cons_of_ne_nil (List.cons_ne_nil next rest), placesAlong,
            List.mem_cons] at member
          rw [placesAlong, List.mem_cons]
          exact member.imp_right ih

/-! ## Where paths lead -/

theorem of_follow {here place : Place} {names : List String}
    (reached : workspace.follow here names = .ok place) :
    place = names.foldl enter here ∧ ∀ name ∈ names, Text.octetCount name ≤ longestName := by
  induction names generalizing here with
  | nil =>
      cases reached
      exact ⟨rfl, by simp⟩
  | cons name rest ih =>
      rw [follow] at reached
      split at reached
      · split at reached
        · cases reached
        · next short =>
            have tail := ih reached
            exact ⟨tail.1, List.forall_mem_cons.mpr ⟨Nat.not_lt.mp short, tail.2⟩⟩
      · split at reached <;> cases reached

theorem follow_eq_ok {here : Place} {names : List String}
    (top : workspace.isDirectoryAt here)
    (along : ∀ place ∈ placesAlong here names.dropLast, workspace.isDirectoryAt place)
    (short : ∀ name ∈ names, Text.octetCount name ≤ longestName) :
    workspace.follow here names = .ok (names.foldl enter here) := by
  induction names generalizing here with
  | nil => rfl
  | cons name rest ih =>
      rw [List.forall_mem_cons] at short
      rw [follow, if_pos top, if_neg (Nat.not_lt.mpr short.1)]
      cases rest with
      | nil => rfl
      | cons next rest =>
          rw [List.dropLast_cons_of_ne_nil (List.cons_ne_nil next rest), placesAlong,
            List.forall_mem_cons] at along
          exact ih along.1 along.2 short.2

theorem of_placeOf {place : Place} (reached : workspace.placeOf path = .ok place) :
    path.defect? = none ∧ place = path.names.foldl enter (start path) ∧
      ∀ name ∈ path.names, Text.octetCount name ≤ longestName := by
  rw [placeOf] at reached
  split at reached
  · cases reached
  · next accepted =>
      cases followed : workspace.follow (start path) path.names with
      | error defect =>
          rw [followed] at reached
          cases reached
      | ok found =>
          rw [followed] at reached
          cases reached
          exact ⟨accepted, of_follow followed⟩

/-! ## Writing and reading -/

namespace HasRoom

section

variable (room : workspace.HasRoom path)

include room

theorem placeOf_eq_ok {made : Workspace}
    (directories : made.directories = (workspace.addDirectory path.parent).directories) :
    made.placeOf path = .ok (path.names.foldl enter (start path)) := by
  have followed : made.follow (start path) path.names =
      .ok (path.names.foldl enter (start path)) := by
    apply follow_eq_ok (isDirectoryAt_start _ path) _ room.short
    intro place member
    rw [isDirectoryAt, directories]
    exact isDirectoryAt_addDirectory_iff.mpr (.inr member)
  rw [placeOf, room.accepted, followed]
  rfl

/-- A file that was put at a path is read with its text. -/
theorem text?_add (text : String) : (workspace.add path text).text? path = some text := by
  have noDirectory : (workspace.add path text).isDirectoryAt
      (path.names.foldl enter (start path)) = false := room.vacant
  have found : (workspace.add path text).fileAt? (path.names.foldl enter (start path)) =
      some text := fileAt?_put_self _ _ text
  have reached : (workspace.add path text).placeOf path = .ok _ := room.placeOf_eq_ok rfl
  rw [text?, read, reached]
  simp only [bind, Except.bind, noDirectory, found]
  rfl

theorem makeDirectory_eq_ok :
    workspace.makeDirectory path.parent = .ok (workspace.addDirectory path.parent) := by
  have passable : (placesAlong (start path) path.parent.names).any workspace.isFileAt = false := by
    rw [List.any_eq_false]
    exact fun place member => ne_true_of_eq_false (room.passable place member)
  have passableBefore :
      (placesAlong (start path) path.parent.names.dropLast).any workspace.isFileAt = false := by
    rw [List.any_eq_false] at passable ⊢
    exact fun place member => passable place (mem_placesAlong_of_dropLast member)
  rw [makeDirectory]
  exact (if_neg (ne_true_of_eq_false passableBefore)).trans
    (if_neg (ne_true_of_eq_false passable))

/-- A file can be written where there is room for it. -/
theorem write_eq_ok (text : String) :
    workspace.write path text = .ok (workspace.add path text) := by
  rw [write, room.makeDirectory_eq_ok]
  simp only [bind, Except.bind, room.placeOf_eq_ok rfl, room.vacant]
  rfl

end

/-- A file is only written where there is room for it. -/
theorem of_write {after : Workspace} {text : String}
    (written : workspace.write path text = .ok after) : workspace.HasRoom path := by
  rcases bind_eq_ok_iff.mp written with ⟨made, making, rest⟩
  rcases bind_eq_ok_iff.mp rest with ⟨place, reached, rest⟩
  rw [makeDirectory] at making
  split at making
  · cases making
  split at making
  · cases making
  next passable =>
  cases making
  rcases of_placeOf reached with ⟨accepted, rfl, short⟩
  split at rest
  · cases rest
  next vacant =>
  refine ⟨accepted, short, ?_, eq_false_of_ne_true vacant⟩
  intro place member
  rw [Bool.not_eq_true, List.any_eq_false] at passable
  exact eq_false_of_ne_true (passable place member)

end HasRoom

end TargetFeatures.Workspace
