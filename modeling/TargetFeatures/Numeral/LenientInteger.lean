import TargetFeatures.Numeral.Digits
import TargetFeatures.Text.Blank

/-!
# Integers written as text

A field that holds an integer also accepts a text that denotes one: decimal digits, with a sign,
single underscores between digits, leading zeros and a fraction of zeros all optional, and blank
characters allowed at both ends. Only the digits from `0` to `9` count.

The text is stripped from the outside in. Blanks go first, then the sign, the fraction, the
leading zeros with the underscores after them, and the underscores that are left; what remains is
an integer without leading zeros. Where zeros were stripped it may have a sign of its own, so
`0-1` is minus one, but only if there was none before the zeros.
-/

namespace TargetFeatures.Numeral

/-- Why a text is not taken as an integer. -/
inductive IntegerDefect where
  /-- It does not denote an integer. -/
  | unreadable
  /-- It has too many digits. -/
  | tooLong
  deriving DecidableEq, Repr

/-- A text without its fraction, if that has nothing but zeros, and at least one. -/
def dropZeroFraction (characters : List Char) : List Char :=
  let fraction := (characters.dropWhile (· ≠ '.')).drop 1
  if !fraction.isEmpty && fraction.all (· == '0') then characters.takeWhile (· ≠ '.')
  else characters

/-- A text that starts with a digit, without leading zeros and the underscores among and after
them. Its last character stays in any case. -/
def dropLeadingZeros? : List Char → Option (List Char)
  | [] => none
  | '0' :: rest =>
    match rest.dropWhile fun character => character == '0' || character == '_' with
    | [] => some [rest.getLast?.getD '0']
    | remaining => some remaining
  | first :: rest => if (digit? first).isSome then some (first :: rest) else none

/-- Whether two underscores follow each other. -/
def hasDoubleUnderscore : List Char → Bool
  | '_' :: '_' :: _ => true
  | _ :: rest => hasDoubleUnderscore rest
  | [] => false

/-- A text without the single underscores inside it. -/
def dropUnderscores? (characters : List Char) : Option (List Char) :=
  if characters.head? == some '_' || characters.getLast? == some '_' ||
      hasDoubleUnderscore characters then none
  else some (characters.filter (· ≠ '_'))

/-- Value of digits without leading zeros. Too many digits are noticed before what follows
them. -/
def magnitude (characters : List Char) : Except IntegerDefect Nat :=
  let digits := characters.takeWhile Char.isDigit
  if digits.isEmpty || (digits.head? == some '0' && characters.length > 1) then .error .unreadable
  else if digits.length > digitLimit then .error .tooLong
  else if digits.length < characters.length then .error .unreadable
  else .ok (digitsValue digits)

/-- Value of digits that a minus sign may precede. -/
def signedMagnitude : List Char → Except IntegerDefect Int
  | '-' :: rest => (magnitude rest).map fun value => -(value : Int)
  | characters => (magnitude characters).map fun value => (value : Int)

/-- Value of an integer written as text. -/
def lenientInteger (text : String) : Except IntegerDefect Int :=
  let (negative, unsigned) := splitSign (Text.trimBlank text.toList)
  match (dropLeadingZeros? (dropZeroFraction unsigned)).bind dropUnderscores? with
  | none => .error .unreadable
  | some digits =>
    if negative then (magnitude digits).map fun value => -(value : Int)
    else signedMagnitude digits

end TargetFeatures.Numeral
