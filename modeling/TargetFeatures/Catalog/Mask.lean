/-!
# Extension sets as numbers

A set of extensions is a number whose bit `i` stands for the extension with id `i`. The sets that
a session works on are natural numbers. A set that someone writes into a record may be negative
and then stands for the infinite set of the bits of its two's complement form; questions about
such a set are only asked up to a number of extensions.
-/

namespace TargetFeatures.Mask

/-- The ids in a set, lowest first. -/
def ids (mask : Nat) : List Nat := (List.range (mask.log2 + 1)).filter mask.testBit

/-- The set with one id. -/
def single (id : Nat) : Nat := 1 <<< id

/-- The set of a list of ids. -/
def ofIds (ids : List Nat) : Nat := ids.foldl (fun mask id => mask ||| single id) 0

/-- The ids of one set that are not in another. -/
def difference (mask removed : Nat) : Nat := mask ^^^ (mask &&& removed)

theorem testBit_single (id other : Nat) : (single id).testBit other = decide (id = other) := by
  rw [single, Nat.one_shiftLeft, Nat.testBit_two_pow]

theorem testBit_difference (mask removed id : Nat) :
    (difference mask removed).testBit id = (mask.testBit id && !removed.testBit id) := by
  simp only [difference, Nat.testBit_xor, Nat.testBit_and]
  cases mask.testBit id <;> cases removed.testBit id <;> rfl

/-- Whether an id is in a written set. -/
def contains (mask : Int) (id : Nat) : Bool :=
  match mask with
  | .ofNat value => value.testBit id
  | .negSucc value => !value.testBit id

/-- The union of two written sets. -/
def union : Int → Int → Int
  | .ofNat left, .ofNat right => .ofNat (left ||| right)
  | .ofNat left, .negSucc right => .negSucc (difference right left)
  | .negSucc left, .ofNat right => .negSucc (difference left right)
  | .negSucc left, .negSucc right => .negSucc (left &&& right)

/-- The ids below a bound that are in a written set, lowest first. -/
def idsBelow (count : Nat) (mask : Int) : List Nat := (List.range count).filter (contains mask)

/-- Whether a written set has only ids below a bound. -/
def isBelow (count : Nat) (mask : Int) : Bool := mask >>> count == 0

/-- A bound from which on a written set has either all ids or none. -/
def reach (mask : Int) : Nat := mask.natAbs.log2 + 1

end TargetFeatures.Mask
