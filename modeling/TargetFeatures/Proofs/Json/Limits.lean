import TargetFeatures.Json.Reader

/-!
# What the limits of a reader do

Limits only ever make the reader stop: a text is read with limits as it is read without them, or
reading stops at an integer or a nesting that is beyond the limits (`agrees_read`). They do make it
stop at texts that are read without them: a mapping around one integer is read exactly when the
limits allow for its digits (`read_repunitText`).
-/

namespace TargetFeatures.Json

section

variable {α β : Type} {limits : Limits}

/-- Whether reading stopped at something beyond the limits. -/
inductive GivesUp (limits : Limits) : Except Error α → Prop
  | longInteger {most count : Nat} (limited : limits.digits = some most) (long : most < count) :
      GivesUp limits (.error (.longInteger count))
  | deepNesting (limited : limits.nesting.isSome) (isMapping : Bool) :
      GivesUp limits (.error (.deepNesting isMapping))

theorem not_givesUp_of_isOk {result : Except Error α} (isRead : result.isOk) :
    ¬GivesUp limits result := by
  intro stopped
  cases stopped <;> cases isRead

/-- Whether a result of reading with limits is that of reading without them, unless reading
stopped. -/
def Agrees (limits : Limits) (limited unlimited : Except Error α) : Prop :=
  limited = unlimited ∨ GivesUp limits limited

theorem Agrees.refl (result : Except Error α) : Agrees limits result result := .inl rfl

theorem Agrees.bind {limited unlimited : Except Error α} {next other : α → Except Error β}
    (first : Agrees limits limited unlimited)
    (after : ∀ found, Agrees limits (next found) (other found)) :
    Agrees limits (limited >>= next) (unlimited >>= other) := by
  rcases first with rfl | stopped
  · cases limited with
    | error error => exact .inl rfl
    | ok found => exact after found
  · cases stopped with
    | longInteger limited long => exact .inr (.longInteger limited long)
    | deepNesting limited isMapping => exact .inr (.deepNesting limited isMapping)

theorem Agrees.map {limited unlimited : Except Error α} (change : α → β)
    (first : Agrees limits limited unlimited) :
    Agrees limits (limited.map change) (unlimited.map change) := by
  have asBind : ∀ result : Except Error α,
      result.map change = result >>= fun found => .ok (change found) := by
    intro result
    cases result <;> rfl
  rw [asBind, asBind]
  exact first.bind fun _ => .refl _

end

variable {limits : Limits}

theorem inner?_unlimited : Limits.unlimited.inner? = some .unlimited := rfl

theorem givesUp_of_inner?_eq_none {α : Type} (full : limits.inner? = none) (isMapping : Bool) :
    GivesUp (α := α) limits (.error (.deepNesting isMapping)) := by
  rw [Limits.inner?] at full
  split at full
  · cases full
  · next bound => exact .deepNesting (by simp [bound]) isMapping
  · cases full

theorem agrees_of_inner {inner : Limits} {α : Type} {limited unlimited : Except Error α}
    (room : limits.inner? = some inner) (agrees : Agrees inner limited unlimited) :
    Agrees limits limited unlimited := by
  rcases agrees with same | stopped
  · exact .inl same
  · rw [Limits.inner?] at room
    split at room
    · cases room
      exact .inr stopped
    · cases room
    · next bound =>
        cases room
        cases stopped with
        | longInteger limited long => exact .inr (.longInteger limited long)
        | deepNesting limited isMapping => exact .inr (.deepNesting (by simp [bound]) isMapping)

theorem agrees_unsignedNumber (negative : Bool) (characters : List Char) :
    Agrees limits (unsignedNumber limits negative characters)
      (unsignedNumber .unlimited negative characters) := by
  refine Agrees.bind (.refl _) fun ⟨whole, rest⟩ => ?_
  dsimp only
  split
  · split
    · next beyond =>
        rcases (Option.any_eq_true _ _).mp beyond with ⟨most, limited, long⟩
        exact .inr (.longInteger limited (of_decide_eq_true long))
    · exact .refl _
  · exact .refl _

theorem agrees_scalar (characters : List Char) :
    Agrees limits (scalar limits characters) (scalar .unlimited characters) := by
  unfold scalar
  split
  · exact .refl _
  · split
    · exact agrees_unsignedNumber true _
    · exact agrees_unsignedNumber false _

/-- Whether the limits only make the reader stop when its recursion is bounded by a depth. -/
structure AgreesAt (depth : Nat) : Prop where
  value : ∀ limits characters,
    Agrees limits (Json.value limits depth characters) (Json.value .unlimited depth characters)
  items : ∀ limits characters,
    Agrees limits (Json.items limits depth characters) (Json.items .unlimited depth characters)
  entries : ∀ limits known characters,
    Agrees limits (Json.entries limits depth known characters)
      (Json.entries .unlimited depth known characters)

namespace AgreesAt

variable {depth : Nat} (agrees : AgreesAt depth)

include agrees

theorem value_succ (limits : Limits) (characters : List Char) :
    Agrees limits (Json.value limits (depth + 1) characters)
      (Json.value .unlimited (depth + 1) characters) := by
  unfold Json.value
  split
  · exact .refl _
  · exact .refl _
  · next bound =>
      cases bound
      cases room : limits.inner? with
      | none => exact .inr (givesUp_of_inner?_eq_none room false)
      | some inner =>
          rw [inner?_unlimited]
          split
          · next found => cases found
          · next following =>
              rw [following]
              exact .refl _
          · next found _ =>
              cases found
              exact agrees_of_inner room ((agrees.items _ _).map _)
  · next bound =>
      cases bound
      cases room : limits.inner? with
      | none => exact .inr (givesUp_of_inner?_eq_none room true)
      | some inner =>
          rw [inner?_unlimited]
          split
          · next found => cases found
          · next following =>
              rw [following]
              exact .refl _
          · next found _ =>
              cases found
              exact agrees_of_inner room ((agrees.entries _ _ _).map _)
  · exact (agrees_scalar _).map _

theorem items_succ (limits : Limits) (characters : List Char) :
    Agrees limits (Json.items limits (depth + 1) characters)
      (Json.items .unlimited (depth + 1) characters) := by
  unfold Json.items
  refine (agrees.value limits characters).bind fun ⟨item, rest⟩ => ?_
  dsimp only
  split
  · exact .refl _
  · exact (agrees.items limits _).bind fun _ => .refl _
  · exact .refl _

theorem entries_succ (limits : Limits) (known : List (Scalar × Value)) (characters : List Char) :
    Agrees limits (Json.entries limits (depth + 1) known characters)
      (Json.entries .unlimited (depth + 1) known characters) := by
  unfold Json.entries
  split
  · exact .refl _
  · next bound =>
      cases bound
      refine Agrees.bind (.refl _) fun ⟨name, afterName⟩ => ?_
      dsimp only
      split
      · refine (agrees.value limits _).bind fun ⟨content, afterContent⟩ => ?_
        dsimp only
        split
        · exact .refl _
        · exact agrees.entries limits _ _
        · exact .refl _
      · exact .refl _
  · exact .refl _

theorem succ : AgreesAt (depth + 1) where
  value := agrees.value_succ
  items := agrees.items_succ
  entries := agrees.entries_succ

end AgreesAt

theorem agreesAt_zero : AgreesAt 0 where
  value _ _ := by simp only [Json.value, Agrees.refl]
  items _ _ := by simp only [Json.items, Agrees.refl]
  entries _ _ _ := by simp only [Json.entries, Agrees.refl]

theorem agreesAt (depth : Nat) : AgreesAt depth := by
  induction depth with
  | zero => exact agreesAt_zero
  | succ depth ih => exact ih.succ

/-- A text is read with limits as without them, or reading stops at something beyond the limits. -/
theorem agrees_read (limits : Limits) (text : String) :
    Agrees limits (read limits text) (read .unlimited text) :=
  ((agreesAt _).value limits _).bind fun _ => .refl _

/-! ## Integers of many digits -/

/-- Whether a number ends in front of a text. -/
def EndsNumber (rest : List Char) : Prop :=
  ∀ character ∈ rest.head?, ¬character.isDigit ∧ character ≠ '.' ∧ character ≠ 'e' ∧ character ≠ 'E'

theorem spanDigits_append {digits rest : List Char} (all : ∀ digit ∈ digits, digit.isDigit)
    (ends : EndsNumber rest) : spanDigits (digits ++ rest) = (digits, rest) := by
  have stops : rest.takeWhile Char.isDigit = [] ∧ rest.dropWhile Char.isDigit = rest := by
    cases rest with
    | nil => exact ⟨rfl, rfl⟩
    | cons character rest =>
        have other := (ends character rfl).1
        exact ⟨List.takeWhile_cons_of_neg other, List.dropWhile_cons_of_neg other⟩
  rw [spanDigits, List.takeWhile_append_of_pos all, List.dropWhile_append_of_pos all, stops.1,
    stops.2, List.append_nil]

theorem fraction?_eq_none {rest : List Char} (ends : EndsNumber rest) : fraction? rest = none := by
  unfold fraction?
  split
  · exact absurd rfl (ends _ rfl).2.1
  · rfl

theorem exponent?_eq_none {rest : List Char} (ends : EndsNumber rest) : exponent? rest = none := by
  unfold exponent?
  split
  · exact absurd rfl (ends _ rfl).2.2.1
  · exact absurd rfl (ends _ rfl).2.2.2
  · rfl

/-- A run of digits is an integer, unless there are too many of them. -/
theorem unsignedNumber_digits (limits : Limits) (negative : Bool) {first : Char}
    {digits rest : List Char} (leading : first ≠ '0')
    (all : ∀ digit ∈ first :: digits, digit.isDigit) (ends : EndsNumber rest) :
    unsignedNumber limits negative (first :: digits ++ rest) =
      if limits.digits.any ((first :: digits).length > ·) then
        .error (.longInteger (first :: digits).length)
      else
        let magnitude : Int := Numeral.digitsValue (first :: digits)
        .ok (.int (if negative then -magnitude else magnitude), rest) := by
  have whole : wholePart? (first :: digits ++ rest) = some (first :: digits, rest) := by
    unfold wholePart?
    split
    · next same => exact absurd (List.cons.inj same).1 leading
    · rw [spanDigits_append all ends]
      rfl
  rw [unsignedNumber, whole]
  simp only [required, bind, Except.bind, fraction?_eq_none ends, Option.getD_none,
    exponent?_eq_none ends]
  rfl

/-! ### One integer in a mapping -/

/-- A mapping that has an integer with the given number of digits for its entry, as it is
written. -/
def repunitCharacters (count : Nat) : List Char :=
  '\x7b' :: '"' :: 'n' :: '"' :: ':' :: (List.replicate count '1' ++ ['\x7d'])

/-- The text of that mapping. -/
def repunitText (count : Nat) : String := String.ofList (repunitCharacters count)

/-- The integer in it. -/
def repunit (count : Nat) : Nat := Numeral.digitsValue (List.replicate count '1')

theorem value_one (depth : Nat) (tail : List Char) :
    value limits (depth + 1) ('1' :: tail) =
      (unsignedNumber limits false ('1' :: tail)).map fun (leaf, rest) => (.scalar leaf, rest) :=
  rfl

theorem entries_one (depth : Nat) (tail : List Char) :
    entries limits (depth + 2) [] ('"' :: 'n' :: '"' :: ':' :: '1' :: tail) = (do
      let (content, rest) ← value limits (depth + 1) ('1' :: tail)
      match skipSpace rest with
      | '\x7d' :: rest => return ([(.text "n", content)], rest)
      | ',' :: rest => entries limits (depth + 1) [(.text "n", content)] (skipSpace rest)
      | _ => throw .malformed) := rfl

theorem value_map {inner : Limits} (depth : Nat) (tail : List Char)
    (room : limits.inner? = some inner) :
    value limits (depth + 1) ('\x7b' :: '"' :: tail) =
      (entries inner depth [] ('"' :: tail)).map fun (entries, rest) => (.map entries, rest) := by
  rw [value, room]
  rfl

theorem value_repunit {inner : Limits} (room : limits.inner? = some inner) (depth count : Nat) :
    value limits (depth + 3) (repunitCharacters (count + 1)) =
      if inner.digits.any (count + 1 > ·) then .error (.longInteger (count + 1))
      else .ok (.object [("n", .ofInt (repunit (count + 1)))], []) := by
  have digits : ∀ digit ∈ '1' :: List.replicate count '1', digit.isDigit := by
    intro digit member
    rw [← List.replicate_succ] at member
    rw [List.eq_of_mem_replicate member]
    decide
  have ends : EndsNumber ['\x7d'] := by
    intro character same
    cases same
    decide
  have number := unsignedNumber_digits inner false (by decide) digits ends
  rw [repunitCharacters, List.replicate_succ, List.cons_append, value_map _ _ room, entries_one,
    value_one, ← List.cons_append, number, ← List.replicate_succ, List.length_replicate]
  split <;> rfl

/-- Reading stops at the integer if it has more digits than the limit allows. -/
theorem read_repunitText {inner : Limits} (room : limits.inner? = some inner) (count : Nat) :
    read limits (repunitText (count + 1)) =
      if inner.digits.any (count + 1 > ·) then .error (.longInteger (count + 1))
      else .ok (.object [("n", .ofInt (repunit (count + 1)))]) := by
  have fuel : 2 * (repunitCharacters (count + 1)).length + 2 = 2 * count + 13 + 3 := by
    simp only [repunitCharacters, List.length_cons, List.length_append, List.length_replicate,
      List.length_nil]
    omega
  have front : skipSpace (repunitCharacters (count + 1)) = repunitCharacters (count + 1) := rfl
  rw [read, repunitText, String.toList_ofList]
  dsimp only
  rw [fuel, front, value_repunit room]
  split <;> rfl

end TargetFeatures.Json
