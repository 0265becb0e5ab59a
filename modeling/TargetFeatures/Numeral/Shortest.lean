import TargetFeatures.Numeral.Binary64

/-!
# Shortest decimal text of a double

The text of a double has the fewest digits that read back as the same double, and of the
candidates with that many digits the one nearest to it. The search is exact: the reals that
round to the number form an interval, and for one, two, … seventeen digits the two decimal
neighbours of the number are tested against it.

`Layout` holds the decisions that remain once the digits are known.
-/

namespace TargetFeatures

/-- Digits of a positive number: it equals `0.d₁d₂d₃… * 10 ^ point`. -/
structure DecimalDigits where
  digits : Nat
  count : Nat
  point : Int
  deriving DecidableEq, Repr, Inhabited

namespace Binary64

/-- Position of the decimal point of a positive ratio: the least `p` with the ratio below
`10 ^ p`. -/
def decimalPoint (numerator denominator : Nat) : Int :=
  if denominator ≤ numerator then
    ((Nat.toDigits 10 (numerator / denominator)).length : Int)
  else
    let places := (Nat.toDigits 10 (denominator / numerator)).length
    if denominator = numerator * powerOfTen (places - 1) then 2 - (places : Int)
    else 1 - (places : Int)

/-- Whether a decimal `digits * 10 ^ shift` lies among the reals that round to
`significand * 2 ^ exponent`. The ends of that interval belong to it when the significand is
even, and the lower gap is half as wide at a power of two. -/
def readsBack (significand : Nat) (exponent : Int) (digits : Nat) (shift : Int) : Bool :=
  let lowerGap := if significand = hiddenBit ∧ exponent > minExponent then 1 else 2
  let (unitTop, unitBottom) := ratio 1 (exponent - 2)
  let (decimalTop, decimalBottom) :=
    if shift < 0 then (digits, powerOfTen shift.natAbs) else (digits * powerOfTen shift.natAbs, 1)
  let value := decimalTop * unitBottom
  let lower := (4 * significand - lowerGap) * unitTop * decimalBottom
  let upper := (4 * significand + 2) * unitTop * decimalBottom
  if significand % 2 = 0 then lower ≤ value && value ≤ upper
  else lower < value && value < upper

/-- The nearest of the two neighbours on the grid of `count` digits that reads back. -/
def digitsOfLength? (significand : Nat) (exponent : Int) (point : Int) (count : Nat) :
    Option DecimalDigits :=
  let (numerator, denominator) := ratio significand exponent
  let shift : Int := point - count
  let (top, bottom) :=
    if shift < 0 then (numerator * powerOfTen shift.natAbs, denominator)
    else (numerator, denominator * powerOfTen shift.natAbs)
  let below := top / bottom
  let above := if top % bottom = 0 then below else below + 1
  let twice := 2 * (top % bottom)
  let belowFirst := twice < bottom || (twice = bottom && below % 2 = 0)
  let candidates := if belowFirst then [below, above] else [above, below]
  (candidates.find? (readsBack significand exponent · shift)).map fun digits =>
    if digits = powerOfTen count then ⟨1, 1, point + 1⟩ else ⟨digits, count, point⟩

/-- The fewest digits that read back as a positive double. -/
def shortestDigits (significand : Nat) (exponent : Int) : DecimalDigits :=
  let (numerator, denominator) := ratio significand exponent
  let point := decimalPoint numerator denominator
  ((List.range 17).findSome? fun index =>
    digitsOfLength? significand exponent point (index + 1)).getD ⟨0, 1, 1⟩

/-- Where positional notation is used, and how an exponent is written. -/
structure Layout where
  leastPoint : Int
  greatestPoint : Int
  exponentDigits : Nat

/-- Numbers from one ten-thousandth up to ten to the sixteenth are written positionally. -/
def layout : Layout := ⟨-3, 16, 2⟩

/-- Decimal text of a natural number. -/
def digitText (value : Nat) : String := String.ofList (Nat.toDigits 10 value)

/-- Digits written out in the given layout. -/
def DecimalDigits.render (layout : Layout) (decimal : DecimalDigits) : String :=
  let digits := Nat.toDigits 10 decimal.digits
  if layout.leastPoint ≤ decimal.point ∧ decimal.point ≤ layout.greatestPoint then
    if decimal.point ≤ 0 then
      "0." ++ String.ofList (List.replicate decimal.point.natAbs '0' ++ digits)
    else
      let whole := decimal.point.natAbs
      let padded := digits ++ List.replicate (whole - digits.length) '0'
      let fraction := padded.drop whole
      String.ofList (padded.take whole) ++ "." ++
        String.ofList (if fraction.isEmpty then ['0'] else fraction)
  else
    let exponent := decimal.point - 1
    let magnitude := Nat.toDigits 10 exponent.natAbs
    let mantissa := match digits with
      | [] => []
      | [only] => [only]
      | first :: rest => first :: '.' :: rest
    String.ofList mantissa ++ (if exponent < 0 then "e-" else "e+") ++
      String.ofList
        (List.replicate (layout.exponentDigits - magnitude.length) '0' ++ magnitude)

/-- Text of a double. -/
def toText : Binary64 → String
  | .nan => "nan"
  | .infinite negative => if negative then "-inf" else "inf"
  | .finite negative significand exponent =>
    let sign := if negative then "-" else ""
    if significand = 0 then sign ++ "0.0"
    else sign ++ DecimalDigits.render layout (shortestDigits significand exponent)

end Binary64

end TargetFeatures
