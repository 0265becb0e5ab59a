/-!
# Ranges of code points

A property of characters is given as a list of ranges of code points, and a change of case as
runs in which the code point moves by a constant distance.
-/

namespace TargetFeatures.Text

/-- Whether one of the ranges contains a character. -/
def inRanges (ranges : List (Nat × Nat)) (character : Char) : Bool :=
  ranges.any fun (first, last) => first ≤ character.toNat && character.toNat ≤ last

/-- A run of characters with the same distance to their counterpart in the other case. -/
structure CaseRun where
  first : Nat
  last : Nat
  stride : Nat
  shift : Int

/-- Whether a run contains a code point. -/
def CaseRun.contains (run : CaseRun) (code : Nat) : Bool :=
  run.first ≤ code && code ≤ run.last && (code - run.first) % run.stride == 0

/-- The counterpart of a code point in a list of runs. -/
def CaseRun.shifted? (runs : List CaseRun) (code : Nat) : Option Nat :=
  (runs.find? (·.contains code)).map fun run =>
    ((code : Int) + run.shift).toNat

end TargetFeatures.Text
