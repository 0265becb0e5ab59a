/-!
# Halves of surrogate pairs

A text format may name a character by one of the two numbers of a surrogate pair, and nothing
says that the other one follows. Such a half is no character of its own. It is kept in a text as
the private character whose code point lies `halfShift` above it, and a writer gives it back by its
number. So these private characters, which no standard gives a use, are not told apart from halves.
-/

namespace TargetFeatures.Text

/-- Whether a number is the first half of a surrogate pair. -/
def isHighSurrogate (unit : Nat) : Bool := 0xD800 ≤ unit && unit ≤ 0xDBFF

/-- Whether a number is the second half of a surrogate pair. -/
def isLowSurrogate (unit : Nat) : Bool := 0xDC00 ≤ unit && unit ≤ 0xDFFF

/-- The distance from a half to the character that stands for it. -/
def halfShift : Nat := 0x100000

/-- The character with a number, or the one that stands for it if it is half of a pair. -/
def ofUnit (unit : Nat) : Char :=
  if isHighSurrogate unit || isLowSurrogate unit then Char.ofNat (unit + halfShift)
  else Char.ofNat unit

/-- The character of a pair. -/
def ofPair (high low : Nat) : Char :=
  Char.ofNat (0x10000 + (high - 0xD800) * 0x400 + (low - 0xDC00))

/-- The half that a character stands for. -/
def half? (character : Char) : Option Nat :=
  if 0xD800 + halfShift ≤ character.toNat ∧ character.toNat ≤ 0xDFFF + halfShift then
    some (character.toNat - halfShift)
  else none

/-- Whether a character stands for a half. -/
def isHalf (character : Char) : Bool := (half? character).isSome

/-- The code units of a number: itself, or the two halves of a pair. -/
def codeUnits (code : Nat) : List Nat :=
  if code < 0x10000 then [code]
  else [0xD800 + (code - 0x10000) / 0x400, 0xDC00 + (code - 0x10000) % 0x400]

/-- The code units of a character, or the half that it stands for. -/
def charUnits (character : Char) : List Nat :=
  match half? character with
  | some half => [half]
  | none => codeUnits character.toNat

/-- Whether a text has halves in it, and hence no form in UTF-8. -/
def hasHalf (text : String) : Bool := text.toList.any isHalf

/-- A text with three replacement characters for each half, one for each of its three octets. -/
def replaceHalves (text : String) : String :=
  String.ofList (text.toList.flatMap fun character =>
    if isHalf character then List.replicate 3 '\uFFFD' else [character])

/-- A character has the number that it was made of. -/
theorem toNat_ofNat_of_isValidChar {number : Nat} (valid : number.isValidChar) :
    (Char.ofNat number).toNat = number :=
  (congrArg Char.toNat (dif_pos valid : Char.ofNat number = Char.ofNatAux number valid)).trans rfl

end TargetFeatures.Text
