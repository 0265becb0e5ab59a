import TargetFeatures.Data.Value
import TargetFeatures.Text.Blank
import TargetFeatures.Text.DecimalDigit
import TargetFeatures.Text.Lowercase
import TargetFeatures.Yaml.Error
import TargetFeatures.Yaml.Tag

/-!
# Values of tagged scalars

The value that a scalar denotes once its tag is known. A scalar with a tag of its own may not
have the form that the tag promises, so every conversion can fail. Numbers may be written with
the decimal digits of any script.
-/

namespace TargetFeatures.Yaml.Conversion

/-- Characters without the underscores that group digits. -/
def ungrouped (text : String) : List Char := text.toList.filter (· != '_')

/-- A truth value. -/
def bool (text : String) : Except Error Bool :=
  let word := Text.lowercase text
  if Tag.trueWords.contains word then return true
  else if Tag.falseWords.contains word then return false
  else throw (.notTruthValue word)

/-- Whether a character is an ASCII blank, which may stand around a number. -/
def isAsciiBlank (character : Char) : Bool :=
  character == ' ' || (9 ≤ character.toNat && character.toNat ≤ 13)

/-- The ASCII character by which a character of a number is read: a space for any other blank,
and a digit for a digit of another script. -/
def asciiForm (character : Char) : Char :=
  if character.toNat < 127 then character
  else if Text.isBlank character then ' '
  else Text.asciiDigit character

/-- A number as it is read: in ASCII, without the blanks around it. -/
def numeral (characters : List Char) : List Char :=
  (((characters.map asciiForm).dropWhile isAsciiBlank).reverse.dropWhile isAsciiBlank).reverse

/-- Digits without the mark of their base. -/
def dropBaseMark (base : Nat) : List Char → List Char
  | '0' :: mark :: rest =>
    if (base == 16 && (mark == 'x' || mark == 'X')) ||
        (base == 8 && (mark == 'o' || mark == 'O')) ||
        (base == 2 && (mark == 'b' || mark == 'B')) then rest
    else '0' :: mark :: rest
  | rest => rest

/-- Value of a digit of a base. -/
def digitIn? (base : Nat) (character : Char) : Option Nat :=
  (Json.hexDigit? character).filter (· < base)

/-- An integer in a base, with blanks around it and a sign. Too many decimal digits are an error
whatever follows them. -/
def integer (base : Nat) (characters : List Char) : Except Error Int :=
  let (negative, unsigned) := Numeral.splitSign (numeral characters)
  let written := dropBaseMark base unsigned
  let digits := (written.map (digitIn? base)).takeWhile Option.isSome |>.filterMap id
  if base == 10 && digits.length > Numeral.digitLimit then throw (.longInteger digits.length)
  else if digits.isEmpty || digits.length < written.length then
    throw (.notInteger base (String.ofList characters))
  else
    return Binary64.signed negative (digits.foldl (fun number digit => base * number + digit) 0)

/-- The parts of a text between colons. -/
def splitColons : List Char → List (List Char)
  | [] => [[]]
  | ':' :: rest => [] :: splitColons rest
  | character :: rest =>
    match splitColons rest with
    | part :: parts => (character :: part) :: parts
    | [] => [[character]]

/-- An integer in the notation that its first characters announce. -/
def int (text : String) : Except Error Int := do
  let characters := ungrouped text
  if characters.isEmpty then throw .emptyNumber
  let (negative, unsigned) := Numeral.splitSign characters
  let magnitude ← match unsigned with
    | ['0'] => pure 0
    | '0' :: 'b' :: rest => integer 2 rest
    | '0' :: 'x' :: rest => integer 16 rest
    | '0' :: _ => integer 8 unsigned
    | [] => throw .emptyNumber
    | _ =>
      if unsigned.contains ':' then do
        let parts ← (splitColons unsigned).mapM (integer 10)
        pure (parts.foldl (fun total part => total * 60 + part) 0)
      else integer 10 unsigned
  return if negative then -magnitude else magnitude

/-- A decimal number without a sign, with a fraction and an exponent, both optional. -/
def decimal? (characters : List Char) : Option Binary64 := do
  let (whole, rest) := Json.spanDigits characters
  let (fraction, rest) := match rest with
    | '.' :: rest => Json.spanDigits rest
    | rest => ([], rest)
  if whole.isEmpty && fraction.isEmpty then none
  let (power, rest) ← if rest.isEmpty then some (0, []) else Json.exponent? rest
  if rest.isEmpty then
    return .ofDecimal false (Numeral.digitsValue (whole ++ fraction)) (power - fraction.length)
  else none

/-- A number with a fraction, or one of the words for the special values, with a sign. -/
def decimal (characters : List Char) : Except Error Binary64 :=
  let (negative, unsigned) := Numeral.splitSign (numeral characters)
  let word := String.ofList unsigned
  let magnitude? :=
    if word == "inf" || word == "infinity" then some (Binary64.infinite false)
    else if word == "nan" then some .nan
    else decimal? unsigned
  match magnitude? with
  | some magnitude => return if negative then magnitude.neg else magnitude
  | none => throw (.notReal (String.ofList characters))

/-- The number that an integer is nearest to; it has to be a finite one. -/
def weight (value : Int) : Except Error Binary64 :=
  match Binary64.ofInt value with
  | .infinite _ => throw .hugeWeight
  | number => return number

/-- Parts in base sixty, the last one first, added up from their weights. -/
def sixties (parts : List Binary64) : Except Error Binary64 := do
  let (total, _) ← parts.foldlM
    (fun (total, place) part => do
      return (total.add (part.mul (← weight place)), place * 60))
    (Binary64.zero false, (1 : Int))
  return total

/-- The characters by which a number with a fraction is read, its sign split off. -/
def realForm (text : String) : Bool × List Char :=
  Numeral.splitSign (Text.lowercase (String.ofList (ungrouped text))).toList

/-- Whether a text is the word for the value that is not a number. All places where it stands
share that value, while a calculation gives a new one each time. -/
def isNanWord (text : String) : Bool := (realForm text).2 == ".nan".toList

/-- A number with a fraction. -/
def real (text : String) : Except Error Binary64 := do
  if (ungrouped text).isEmpty then throw .emptyNumber
  let (negative, unsigned) := realForm text
  let magnitude ←
    if unsigned == ".inf".toList then pure (Binary64.infinite false)
    else if unsigned == ".nan".toList then return .nan
    else if unsigned.contains ':' then do
      sixties (← (splitColons unsigned).mapM decimal).reverse
    else decimal unsigned
  return if negative then magnitude.neg else magnitude

/-- Fails unless a condition on a unit of time holds. -/
def within (holds : Bool) (part : TimeUnit) : Except Error Unit :=
  if holds then return () else throw (.timeRange part)

/-- A date or a moment that exists. -/
def time (text : String) : Except Error Scalar := do
  match Tag.date? (Tag.dropFinalBreak text).toList with
  | none => throw .notTime
  | some written =>
    let offset := written.time.bind (·.offset)
    within (offset.all fun minutes => minutes.natAbs < 24 * 60) (.offset (offset.getD 0))
    within (1 ≤ written.year) (.year written.year)
    within (1 ≤ written.month && written.month ≤ 12) .month
    within (1 ≤ written.day && written.day ≤ Moment.daysInMonth written.year written.month) .day
    match written.time with
    | none => return .date written.year written.month written.day
    | some time =>
      within (time.hour ≤ 23) .hour
      within (time.minute ≤ 59) .minute
      within (time.second ≤ 59) .second
      return .moment ⟨written.year, written.month, written.day, time.hour, time.minute,
        time.second, time.microsecond, time.offset⟩

/-- The six bits that a character of the base 64 alphabet stands for. -/
def sixBits? (character : Char) : Option Nat :=
  let code := character.toNat
  if character.isUpper then some (code - 65)
  else if character.isLower then some (code - 71)
  else if character.isDigit then some (code + 4)
  else if character == '+' then some 62
  else if character == '/' then some 63
  else none

/-- State of decoding base 64: the octets so far, the last first, the characters of the present
group of four, the bits left over from them, and the padding seen. -/
structure Decoding where
  octets : List Nat
  place : Nat
  bits : Nat
  padding : Nat

/-- Octets written in base 64. Other characters are skipped, a complete padding ends the text,
and a group that is left open has no value. -/
def octets? (state : Decoding) : List Char → Option (List Nat)
  | [] => if state.place = 0 then some state.octets.reverse else none
  | character :: rest =>
    if character == '=' then
      if state.place ≥ 2 && state.place + state.padding + 1 ≥ 4 then some state.octets.reverse
      else if state.place ≥ 2 then octets? { state with padding := state.padding + 1 } rest
      else octets? state rest
    else
      match sixBits? character with
      | none => octets? state rest
      | some value =>
        match state.place with
        | 0 => octets? ⟨state.octets, 1, value, 0⟩ rest
        | 1 => octets? ⟨(state.bits * 4 + value / 16) :: state.octets, 2, value % 16, 0⟩ rest
        | 2 => octets? ⟨(state.bits * 16 + value / 4) :: state.octets, 3, value % 4, 0⟩ rest
        | _ => octets? ⟨(state.bits * 64 + value) :: state.octets, 0, 0, 0⟩ rest

/-- Octets written in base 64, in ASCII. -/
def binary (text : String) : Except Error (List Nat) :=
  if text.toList.all (·.toNat < 128) then
    match octets? ⟨[], 0, 0, 0⟩ text.toList with
    | some octets => return octets
    | none => throw .malformed
  else throw .malformed

/-- The value of a scalar with a tag. -/
def scalar (tag : Tag) (text : String) : Except Error Scalar :=
  match tag with
  | .null => return .null
  | .bool => return .bool (← bool text)
  | .int => return .int (← int text)
  | .real => return .real (← real text)
  | .time => time text
  | .text => return .text text
  | .binary => return .bytes (← binary text)
  | _ => throw .malformed

end TargetFeatures.Yaml.Conversion
