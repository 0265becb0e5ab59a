import Mathlib.Tactic.IntervalCases
import TargetFeatures.Json.Reader
import TargetFeatures.Json.Writer
import TargetFeatures.Proofs.Text.Pairs

/-!
# Strings are read back

A string is written as code units, each of them plain or escaped, and read in the same two steps the
other way round. So there are two things to show: code units are read from what was written for
them, and a list of characters is made again of its code units. The second one holds of all
characters, those that stand for halves of pairs included, but two halves side by side that make a
pair come back as one character. So a text is read as it is exactly when it has none
(`string?_stringText`).
-/

namespace TargetFeatures.Json

open Text

/-! ## Code units -/

theorem hexDigit?_digitChar {digit : Nat} (small : digit < 16) :
    hexDigit? (Nat.digitChar digit) = some digit := by
  interval_cases digit <;> rfl

theorem stringUnits?_escapedUnit {unit : Nat} (small : unit < 0x10000) (rest : List Char) :
    stringUnits? (escapedUnit unit ++ rest) = consUnit unit (stringUnits? rest) := by
  have digits : codeUnit? (Nat.digitChar (unit / 4096 % 16)) (Nat.digitChar (unit / 256 % 16))
      (Nat.digitChar (unit / 16 % 16)) (Nat.digitChar (unit % 16)) = some unit := by
    have bound : ∀ digit, digit % 16 < 16 := fun digit => Nat.mod_lt digit (by decide)
    simp only [codeUnit?, hexDigit?_digitChar (bound _), Option.bind_eq_bind, Option.bind_some,
      Option.pure_def, Option.some.injEq]
    omega
  simp only [escapedUnit, unitDigits, List.map_cons, List.map_nil, List.cons_append,
    List.nil_append]
  rw [stringUnits?, digits]

theorem stringUnits?_raw (character : Char) (quote : character ≠ '"') (backslash : character ≠ '\\')
    (printable : 32 ≤ character.toNat) (rest : List Char) :
    stringUnits? (character :: rest) = consUnit character.toNat (stringUnits? rest) := by
  conv_lhs => rw [stringUnits?.eq_def]
  split
  · next same => cases same
  · next same => exact absurd (List.cons.inj same).1 quote
  · next same => exact absurd (List.cons.inj same).1 backslash
  · next same => exact absurd (List.cons.inj same).1 backslash
  · next same =>
      cases same
      simp [Nat.not_lt.mpr printable, backslash]

theorem stringUnits?_escapeUnit {unit : Nat} (small : unit < 0x10000) (rest : List Char) :
    stringUnits? (escapeUnit unit ++ rest) = consUnit unit (stringUnits? rest) := by
  unfold escapeUnit
  split
  · rfl
  · rfl
  · rfl
  · rfl
  · rfl
  · rfl
  · rfl
  · next quote backslash _ _ _ _ _ =>
      split
      · next printable =>
          have code : (Char.ofNat unit).toNat = unit :=
            toNat_ofNat_of_isValidChar (.inl (by omega))
          have notQuote : Char.ofNat unit ≠ '"' := by
            intro same
            rw [same] at code
            exact quote code.symm
          have notBackslash : Char.ofNat unit ≠ '\\' := by
            intro same
            rw [same] at code
            exact backslash code.symm
          have raw := stringUnits?_raw _ notQuote notBackslash (by omega) rest
          rwa [code] at raw
      · exact stringUnits?_escapedUnit small rest

theorem stringUnits?_flatMap_escapeUnit {units : List Nat} (small : ∀ unit ∈ units, unit < 0x10000)
    (rest : List Char) :
    stringUnits? (units.flatMap escapeUnit ++ '"' :: rest) = some (units, rest) := by
  induction units with
  | nil => rfl
  | cons unit units ih =>
      rw [List.forall_mem_cons] at small
      rw [List.flatMap_cons, List.append_assoc, stringUnits?_escapeUnit small.1, ih small.2]
      rfl

/-! ## Characters -/

theorem half?_eq_some_iff {character : Char} {half : Nat} :
    half? character = some half ↔
      character.toNat = half + halfShift ∧ 0xD800 ≤ half ∧ half ≤ 0xDFFF := by
  rw [half?, halfShift, Option.ite_none_right_eq_some, Option.some.injEq]
  omega

theorem codeUnits_lt {code unit : Nat} (valid : code.isValidChar) (member : unit ∈ codeUnits code) :
    unit < 0x10000 := by
  rw [codeUnits] at member
  simp only [Nat.isValidChar] at valid
  split at member
  · rw [List.mem_singleton] at member
    omega
  · simp only [List.mem_cons, List.not_mem_nil, or_false] at member
    omega

theorem charUnits_lt {character : Char} {unit : Nat} (member : unit ∈ charUnits character) :
    unit < 0x10000 := by
  rw [charUnits] at member
  split at member
  · next half found =>
      rw [half?_eq_some_iff] at found
      rw [List.mem_singleton] at member
      omega
  · exact codeUnits_lt character.valid member

theorem toUnits_lt {characters : List Char} : ∀ unit ∈ toUnits characters, unit < 0x10000 := by
  intro unit member
  rcases List.mem_flatMap.mp member with ⟨character, _, inside⟩
  exact charUnits_lt inside

theorem isSurrogate_eq_false (character : Char) :
    isHighSurrogate character.toNat = false ∧ isLowSurrogate character.toNat = false := by
  have valid : character.toNat.isValidChar := character.valid
  simp only [Nat.isValidChar] at valid
  simp only [isHighSurrogate, isLowSurrogate, Bool.and_eq_false_iff, decide_eq_false_iff_not]
  omega

theorem ofUnits_cons {unit : Nat} {rest : List Nat}
    (alone : isHighSurrogate unit → ∀ following ∈ rest.head?, isLowSurrogate following = false) :
    ofUnits (unit :: rest) = ofUnit unit :: ofUnits rest := by
  cases rest with
  | nil => rfl
  | cons following rest =>
      rw [ofUnits]
      simp only [List.head?_cons, Option.mem_def, Option.some.injEq, forall_eq'] at alone
      rw [if_neg]
      simp only [Bool.and_eq_true, not_and, Bool.not_eq_true]
      exact alone

theorem ofUnits_codeUnits (character : Char) (rest : List Nat) :
    ofUnits (codeUnits character.toNat ++ rest) = character :: ofUnits rest := by
  have valid : character.toNat.isValidChar := character.valid
  have noSurrogate := isSurrogate_eq_false character
  rw [codeUnits]
  split
  · rw [List.singleton_append, ofUnits_cons (by simp [noSurrogate.1])]
    simp [ofUnit, noSurrogate]
  · next beyond =>
      simp only [Nat.isValidChar] at valid
      have high : isHighSurrogate (0xD800 + (character.toNat - 0x10000) / 0x400) := by
        simp only [isHighSurrogate, Bool.and_eq_true, decide_eq_true_eq]
        omega
      have low : isLowSurrogate (0xDC00 + (character.toNat - 0x10000) % 0x400) := by
        simp only [isLowSurrogate, Bool.and_eq_true, decide_eq_true_eq]
        omega
      have joined : 0x10000 + (0xD800 + (character.toNat - 0x10000) / 0x400 - 0xD800) * 0x400 +
          (0xDC00 + (character.toNat - 0x10000) % 0x400 - 0xDC00) = character.toNat := by
        omega
      simp only [List.cons_append, List.nil_append]
      rw [ofUnits, high, low, ofPair, joined, Char.ofNat_toNat]
      rfl

theorem ofUnits_charUnits (character : Char) (rest : List Nat)
    (alone : (half? character).any isHighSurrogate →
      ∀ following ∈ rest.head?, isLowSurrogate following = false) :
    ofUnits (charUnits character ++ rest) = character :: ofUnits rest := by
  rw [charUnits]
  split
  · next half found =>
      rw [found, Option.any_some] at alone
      rw [half?_eq_some_iff] at found
      have isHalf : isHighSurrogate half || isLowSurrogate half := by
        simp only [isHighSurrogate, isLowSurrogate, Bool.or_eq_true, Bool.and_eq_true,
          decide_eq_true_eq]
        omega
      rw [List.singleton_append, ofUnits_cons alone, ofUnit, if_pos isHalf, ← found.1,
        Char.ofNat_toNat]
  · exact ofUnits_codeUnits character rest

theorem head?_codeUnits (character : Char) (rest : List Nat) :
    ∀ unit ∈ (codeUnits character.toNat ++ rest).head?, isLowSurrogate unit = false := by
  have valid : character.toNat.isValidChar := character.valid
  simp only [Nat.isValidChar] at valid
  intro unit first
  rw [codeUnits] at first
  split at first
  · cases first
    exact (isSurrogate_eq_false character).2
  · cases first
    simp only [isLowSurrogate, Bool.and_eq_false_iff, decide_eq_false_iff_not]
    omega

theorem head?_charUnits {character : Char} (rest : List Nat)
    (notLow : (half? character).any isLowSurrogate = false) :
    ∀ unit ∈ (charUnits character ++ rest).head?, isLowSurrogate unit = false := by
  rw [charUnits]
  split
  · next half found =>
      rw [found, Option.any_some] at notLow
      intro unit first
      cases first
      exact notLow
  · exact head?_codeUnits character rest

theorem toUnits_cons (character : Char) (rest : List Char) :
    toUnits (character :: rest) = charUnits character ++ toUnits rest :=
  List.flatMap_cons

theorem ofUnits_toUnits (characters : List Char) :
    ofUnits (toUnits characters) = joinPairs characters := by
  fun_induction joinPairs characters with
  | case1 => rfl
  | case2 character =>
      rw [toUnits_cons]
      exact ofUnits_charUnits character [] (by simp)
  | case3 first second rest character pair ih =>
      rcases exists_of_pair?_eq_some pair with ⟨high, low, isFirst, isSecond, isHigh, isLow, rfl⟩
      have units : toUnits (first :: second :: rest) = high :: low :: toUnits rest := by
        simp [toUnits_cons, charUnits, isFirst, isSecond]
      rw [units, ofUnits, isHigh, isLow, ih]
      rfl
  | case4 first second rest apart ih =>
      rw [toUnits_cons, ofUnits_charUnits, ih]
      rw [toUnits_cons]
      intro isHigh
      apply head?_charUnits
      exact not_low_of_pair?_eq_none apart isHigh

/-- A string is read from what was written for it, with the halves of every pair joined. -/
theorem string?_stringText (text : String) (rest : List Char) :
    string? ((toUnits text.toList).flatMap escapeUnit ++ '"' :: rest) =
      some (joined text, rest) := by
  rw [string?, stringUnits?_flatMap_escapeUnit toUnits_lt, Option.map_some]
  simp only [ofUnits_toUnits, joined]

end TargetFeatures.Json
