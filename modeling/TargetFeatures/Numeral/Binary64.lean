/-!
# Double precision numbers

A catalog or a settings file may hold a number with a fraction. Such a number is kept as the
double precision value that its text denotes: a sign, a significand and a power of two, or one
of the special values. The significand and the exponent are plain integers, so every operation
here is exact arithmetic followed by one rounding, and every statement about it is one about
integers.

A finite value is *normal* when its significand has 53 bits, and *subnormal* when its exponent
is the least one. `ofRatio` always returns one of these two forms, which makes structural
equality the equality of bit patterns.
-/

namespace TargetFeatures

/-- Double precision number: `finite negative significand exponent` stands for
`significand * 2 ^ exponent`, negated when `negative` holds. -/
inductive Binary64 where
  | nan
  | infinite (negative : Bool)
  | finite (negative : Bool) (significand : Nat) (exponent : Int)
  deriving DecidableEq, Repr, Inhabited

namespace Binary64

/-- Exponent of the subnormal numbers, the least one. -/
def minExponent : Int := -1074

/-- Greatest exponent of a finite number. -/
def maxExponent : Int := 971

/-- The least significand of a normal number: a one in front of 52 bits. -/
def hiddenBit : Nat := 1 <<< 52

/-- A power of ten. -/
def powerOfTen (exponent : Nat) : Nat := Nat.pow 10 exponent

/-- Zero with the given sign. -/
def zero (negative : Bool) : Binary64 := .finite negative 0 minExponent

/-- Quotient rounded to the nearest integer, a half going to the even neighbour. -/
def roundDiv (numerator denominator : Nat) : Nat :=
  let quotient := numerator / denominator
  let twice := 2 * (numerator % denominator)
  if twice < denominator then quotient
  else if twice = denominator then quotient + quotient % 2
  else quotient + 1

/-- The ratio `numerator / (denominator * 2 ^ exponent)` as a ratio of natural numbers. -/
def scaleDown (numerator denominator : Nat) (exponent : Int) : Nat × Nat :=
  if exponent < 0 then (numerator <<< exponent.natAbs, denominator)
  else (numerator, denominator <<< exponent.natAbs)

/-- Exponent at which a positive ratio has a significand of 53 bits, or the least exponent
when that one is smaller. -/
def exponentOf (numerator denominator : Nat) : Int :=
  let guess : Int := (numerator.log2 : Int) - denominator.log2 - 52
  let (top, bottom) := scaleDown numerator denominator guess
  let exact := if top / bottom < hiddenBit then guess - 1 else guess
  max exact minExponent

/-- The double nearest to a ratio, a tie going to the even significand. -/
def ofRatio (negative : Bool) (numerator denominator : Nat) : Binary64 :=
  if numerator = 0 then zero negative
  else
    let exponent := exponentOf numerator denominator
    let (top, bottom) := scaleDown numerator denominator exponent
    let rounded := roundDiv top bottom
    let (significand, exponent) :=
      if rounded = 2 * hiddenBit then (hiddenBit, exponent + 1) else (rounded, exponent)
    if exponent > maxExponent then .infinite negative
    else .finite negative significand exponent

/-- The double nearest to `digits * 10 ^ exponent`. Exponents far outside the range of doubles
are settled without computing the power. -/
def ofDecimal (negative : Bool) (digits : Nat) (exponent : Int) : Binary64 :=
  if digits = 0 then zero negative
  else
    let magnitude : Int := digits.log2 / 3 + 1 + exponent
    if exponent > 400 then .infinite negative
    else if magnitude < -400 then zero negative
    else if exponent < 0 then ofRatio negative digits (powerOfTen exponent.natAbs)
    else ofRatio negative (digits * powerOfTen exponent.natAbs) 1

/-- The double nearest to an integer. -/
def ofInt (value : Int) : Binary64 := ofRatio (value < 0) value.natAbs 1

/-- The opposite number. -/
def neg : Binary64 → Binary64
  | .nan => .nan
  | .infinite negative => .infinite !negative
  | .finite negative significand exponent => .finite (!negative) significand exponent

/-- Magnitude of a finite number as a ratio of natural numbers. -/
def ratio (significand : Nat) (exponent : Int) : Nat × Nat :=
  if exponent < 0 then (significand, 1 <<< exponent.natAbs)
  else (significand <<< exponent.natAbs, 1)

/-- The integer that a number equals, when it is one. -/
def toInt? : Binary64 → Option Int
  | .finite negative significand exponent =>
    let (numerator, denominator) := ratio significand exponent
    if numerator % denominator = 0 then
      let magnitude : Int := (numerator / denominator : Nat)
      some (if negative then -magnitude else magnitude)
    else none
  | _ => none

/-- An integer that is negated when a flag holds. -/
def signed (negative : Bool) (magnitude : Nat) : Int :=
  if negative then -(magnitude : Int) else (magnitude : Int)

/-- Sum of two numbers, rounded once. A sum of nothing is negative only if both numbers are. -/
def add : Binary64 → Binary64 → Binary64
  | .finite leftSign leftSignificand leftExponent,
    .finite rightSign rightSignificand rightExponent =>
    let (leftTop, leftBottom) := ratio leftSignificand leftExponent
    let (rightTop, rightBottom) := ratio rightSignificand rightExponent
    let sum := signed leftSign (leftTop * rightBottom) + signed rightSign (rightTop * leftBottom)
    if sum = 0 then zero (leftSign && rightSign)
    else ofRatio (sum < 0) sum.natAbs (leftBottom * rightBottom)
  | .nan, _ => .nan
  | _, .nan => .nan
  | .infinite left, .infinite right => if left = right then .infinite left else .nan
  | .infinite left, .finite .. => .infinite left
  | .finite .., .infinite right => .infinite right

/-- Product of two numbers, rounded once. -/
def mul : Binary64 → Binary64 → Binary64
  | .finite leftSign leftSignificand leftExponent,
    .finite rightSign rightSignificand rightExponent =>
    let (leftTop, leftBottom) := ratio leftSignificand leftExponent
    let (rightTop, rightBottom) := ratio rightSignificand rightExponent
    ofRatio (leftSign != rightSign) (leftTop * rightTop) (leftBottom * rightBottom)
  | .nan, _ => .nan
  | _, .nan => .nan
  | .infinite _, .finite _ 0 _ => .nan
  | .finite _ 0 _, .infinite _ => .nan
  | .infinite left, .infinite right => .infinite (left != right)
  | .infinite left, .finite right _ _ => .infinite (left != right)
  | .finite left _ _, .infinite right => .infinite (left != right)

/-- Equality as numbers: both zeros are one number, and the not-a-number value is equal to
itself, since a reader hands out a single one. -/
def sameNumber : Binary64 → Binary64 → Bool
  | .finite _ 0 _, .finite _ 0 _ => true
  | left, right => left == right

end Binary64

end TargetFeatures
