import TargetFeatures.Numeral.Shortest

/-!
# Decimal digits

Integers as runs of the digits from `0` to `9`. An integer that is read from such digits or
written with them has at most `digitLimit` of them, so that no text makes reading or writing one
take too long.
-/

namespace TargetFeatures.Numeral

/-- Value of a decimal digit. -/
def digit? (character : Char) : Option Nat :=
  if '0' ≤ character ∧ character ≤ '9' then some (character.toNat - '0'.toNat) else none

/-- Number that a run of digits denotes. -/
def digitsValue (digits : List Char) : Nat :=
  digits.foldl (fun value digit => 10 * value + (digit.toNat - '0'.toNat)) 0

/-- Whether a minus sign stands in front of a text, and the text after its sign, if it has one. -/
def splitSign : List Char → Bool × List Char
  | '-' :: rest => (true, rest)
  | '+' :: rest => (false, rest)
  | rest => (false, rest)

/-- The greatest number of decimal digits of a written integer. -/
def digitLimit : Nat := 4300

/-- Whether an integer cannot be written with decimal digits. -/
def exceedsDigitLimit (value : Int) : Bool := Binary64.powerOfTen digitLimit ≤ value.natAbs

/-- Message about an integer with too many digits; their number is told when it is known. -/
def digitLimitMessage (found : Option Nat) : String :=
  "Exceeds the limit (" ++ Binary64.digitText digitLimit ++
    " digits) for integer string conversion" ++
    found.elim "" (fun count => ": value has " ++ Binary64.digitText count ++ " digits") ++
    "; use sys.set_int_max_str_digits() to increase the limit"

end TargetFeatures.Numeral
