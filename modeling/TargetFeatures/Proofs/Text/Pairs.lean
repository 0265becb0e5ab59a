import Mathlib.Data.List.Chain
import TargetFeatures.Text.Surrogate

/-!
# Halves that stand side by side

A text can hold the first half of a surrogate pair just before a second one. Nothing that writes
both halves by their numbers keeps them apart from the character of the pair, so they come back
joined (`joined`). A text stays as it is exactly when it has no such place (`joined_eq_self_iff`).
-/

namespace TargetFeatures.Text

/-- The character of two halves that make a pair. -/
def pair? (first second : Char) : Option Char :=
  match half? first, half? second with
  | some high, some low =>
    if isHighSurrogate high && isLowSurrogate low then some (ofPair high low) else none
  | _, _ => none

/-- Characters with the halves of every pair joined. -/
def joinPairs : List Char → List Char
  | [] => []
  | [character] => [character]
  | first :: second :: rest =>
    match pair? first second with
    | some character => character :: joinPairs rest
    | none => first :: joinPairs (second :: rest)

/-- A text with the halves of every pair joined. -/
def joined (text : String) : String := String.ofList (joinPairs text.toList)

/-- Whether no two characters of a text that stand side by side make a pair. -/
def IsUnpaired (text : String) : Prop :=
  text.toList.IsChain fun first second => pair? first second = none

instance : DecidablePred IsUnpaired := fun text =>
  inferInstanceAs (Decidable (text.toList.IsChain fun first second => pair? first second = none))

theorem exists_of_pair?_eq_some {first second character : Char}
    (found : pair? first second = some character) :
    ∃ high low, half? first = some high ∧ half? second = some low ∧ isHighSurrogate high ∧
      isLowSurrogate low ∧ ofPair high low = character := by
  rw [pair?] at found
  split at found
  · next high low isFirst isSecond =>
      simp only [Option.ite_none_right_eq_some, Bool.and_eq_true, Option.some.injEq] at found
      exact ⟨high, low, isFirst, isSecond, found.1.1, found.1.2, found.2⟩
  · cases found

theorem not_low_of_pair?_eq_none {first second : Char} (apart : pair? first second = none)
    (isHigh : (half? first).any isHighSurrogate) :
    (half? second).any isLowSurrogate = false := by
  rw [pair?] at apart
  split at apart
  · next high low isFirst isSecond =>
      rw [isFirst, Option.any_some] at isHigh
      simpa [isSecond, isHigh] using apart
  · next none =>
      rcases (Option.any_eq_true _ _).mp isHigh with ⟨high, isFirst, _⟩
      cases isSecond : half? second with
      | none => rfl
      | some low => exact absurd isSecond (none high low isFirst)

theorem length_joinPairs_le (characters : List Char) :
    (joinPairs characters).length ≤ characters.length := by
  fun_induction joinPairs characters with
  | case1 => simp
  | case2 => simp
  | case3 first second rest character found ih =>
      simp only [List.length_cons]
      omega
  | case4 first second rest apart ih => simpa using ih

theorem joinPairs_eq_self_iff {characters : List Char} :
    joinPairs characters = characters ↔
      characters.IsChain fun first second => pair? first second = none := by
  fun_induction joinPairs characters with
  | case1 => simp
  | case2 => simp
  | case3 first second rest character found ih =>
      simp only [List.isChain_cons_cons, found, reduceCtorEq, false_and, iff_false]
      intro same
      have shorter := length_joinPairs_le rest
      have sameLength := congrArg List.length same
      simp only [List.length_cons] at sameLength
      omega
  | case4 first second rest apart ih =>
      simp only [List.cons.injEq, true_and, List.isChain_cons_cons, apart, ih]

/-- Joining leaves a text alone exactly when it has no halves of a pair side by side. -/
theorem joined_eq_self_iff {text : String} : joined text = text ↔ IsUnpaired text := by
  rw [IsUnpaired, ← joinPairs_eq_self_iff, joined]
  constructor
  · intro same
    rw [← String.toList_inj, String.toList_ofList] at same
    exact same
  · intro same
    rw [same, String.ofList_toList]

theorem joined_of_isUnpaired {text : String} (unpaired : IsUnpaired text) : joined text = text :=
  joined_eq_self_iff.mpr unpaired

end TargetFeatures.Text
