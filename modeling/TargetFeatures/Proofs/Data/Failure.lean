/-!
# Steps that may fail

A computation of several steps succeeds when each of them does, and fails with the failure of the
first one that does not.
-/

namespace TargetFeatures

section

variable {ε α β : Type} {action : Except ε α} {next : α → Except ε β}

theorem bind_eq_ok_iff {result : β} :
    (action >>= next) = .ok result ↔ ∃ value, action = .ok value ∧ next value = .ok result := by
  cases action with
  | error error => simp [bind, Except.bind]
  | ok value => simp [bind, Except.bind]

theorem bind_eq_error_iff {error : ε} :
    (action >>= next) = .error error ↔
      action = .error error ∨ ∃ value, action = .ok value ∧ next value = .error error := by
  cases action with
  | error error => simp [bind, Except.bind]
  | ok value => simp [bind, Except.bind]

theorem map_eq_ok_iff {change : α → β} {result : β} :
    action.map change = .ok result ↔ ∃ value, action = .ok value ∧ change value = result := by
  cases action <;> simp [Except.map]

theorem map_eq_error_iff {change : α → β} {error : ε} :
    action.map change = .error error ↔ action = .error error := by
  cases action <;> simp [Except.map]

theorem toOption_eq_some_iff {value : α} : action.toOption = some value ↔ action = .ok value := by
  cases action <;> simp [Except.toOption]

theorem exists_eq_error_iff : (∃ error, action = .error error) ↔ ¬∃ value, action = .ok value := by
  cases action <;> simp

end

end TargetFeatures
