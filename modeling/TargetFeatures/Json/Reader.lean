import TargetFeatures.Data.Value
import TargetFeatures.Numeral.Digits
import TargetFeatures.Text.Surrogate

/-!
# Reading JSON

`Json.read` makes a document of a text. It accepts the grammar of JSON together with the number
words `NaN`, `Infinity` and `-Infinity`. Control characters inside strings and a byte order mark
are refused; when a key is repeated, the last value is kept in the place of the first. A reader
may be given limits on the number of digits of an integer and on the nesting of lists and
mappings, and stops at the first place that exceeds one.

A string is read in two steps: first as a list of code units, one for each character and for each
escape, then as characters, where a high and a low surrogate that follow each other make one
character and a surrogate alone stays half of a pair.
-/

namespace TargetFeatures.Json

/-- Why a text is not read. -/
inductive Error where
  /-- It is no JSON. -/
  | malformed
  /-- An integer in it has more digits than the limit allows. -/
  | longInteger (digits : Nat)
  /-- A list or a mapping in it is nested deeper than the limit allows. -/
  | deepNesting (isMapping : Bool)
  deriving DecidableEq, Repr

/-- What a reader puts up with; an absent limit allows everything. -/
structure Limits where
  /-- Greatest number of digits of an integer. -/
  digits : Option Nat
  /-- Greatest depth of lists and mappings inside each other. -/
  nesting : Option Nat
  deriving Repr

namespace Limits

/-- No limits. -/
def unlimited : Limits := ⟨none, none⟩

/-- The limits inside one more list or mapping, if there may be one. -/
def inner? (limits : Limits) : Option Limits :=
  match limits.nesting with
  | none => some limits
  | some 0 => none
  | some (depth + 1) => some { limits with nesting := some depth }

end Limits

/-- Whether a character may stand between two tokens. -/
def isSpace (character : Char) : Bool :=
  character == ' ' || character == '\t' || character == '\n' || character == '\r'

/-- The text from the next token on. -/
def skipSpace (characters : List Char) : List Char := characters.dropWhile isSpace

/-- Value of a hexadecimal digit. -/
def hexDigit? (character : Char) : Option Nat :=
  if '0' ≤ character ∧ character ≤ '9' then some (character.toNat - '0'.toNat)
  else if 'a' ≤ character ∧ character ≤ 'f' then some (character.toNat - 'a'.toNat + 10)
  else if 'A' ≤ character ∧ character ≤ 'F' then some (character.toNat - 'A'.toNat + 10)
  else none

/-- The code unit written with four hexadecimal digits. -/
def codeUnit? (first second third fourth : Char) : Option Nat := do
  let a ← hexDigit? first
  let b ← hexDigit? second
  let c ← hexDigit? third
  let d ← hexDigit? fourth
  return ((a * 16 + b) * 16 + c) * 16 + d

/-- The code unit that a backslash and one more character stand for. -/
def shortEscape? (character : Char) : Option Nat :=
  match character with
  | '"' => some 34
  | '\\' => some 92
  | '/' => some 47
  | 'b' => some 8
  | 'f' => some 12
  | 'n' => some 10
  | 'r' => some 13
  | 't' => some 9
  | _ => none

/-- Puts one code unit in front of the units read from the rest of a string. -/
def consUnit (unit : Nat) : Option (List Nat × List Char) → Option (List Nat × List Char)
  | some (units, rest) => some (unit :: units, rest)
  | none => none

/-- Code units of a string up to its closing quote, and the text after it. -/
def stringUnits? : List Char → Option (List Nat × List Char)
  | [] => none
  | '"' :: rest => some ([], rest)
  | '\\' :: 'u' :: first :: second :: third :: fourth :: rest =>
    match codeUnit? first second third fourth with
    | some unit => consUnit unit (stringUnits? rest)
    | none => none
  | '\\' :: escaped :: rest =>
    match shortEscape? escaped with
    | some unit => consUnit unit (stringUnits? rest)
    | none => none
  | character :: rest =>
    if character.toNat < 32 || character == '\\' then none
    else consUnit character.toNat (stringUnits? rest)

/-- Characters of a list of code units. -/
def ofUnits : List Nat → List Char
  | [] => []
  | [unit] => [Text.ofUnit unit]
  | high :: low :: rest =>
    if Text.isHighSurrogate high && Text.isLowSurrogate low then
      Text.ofPair high low :: ofUnits rest
    else Text.ofUnit high :: ofUnits (low :: rest)

/-- The result of a step that finds no JSON. -/
def required {α : Type} : Option α → Except Error α
  | some result => .ok result
  | none => .error .malformed

/-- A string after its opening quote, and the text after it. -/
def string? (characters : List Char) : Option (String × List Char) :=
  (stringUnits? characters).map fun (units, rest) => (String.ofList (ofUnits units), rest)

/-- The longest run of digits at the front of a text, and the text after it. -/
def spanDigits (characters : List Char) : List Char × List Char :=
  (characters.takeWhile Char.isDigit, characters.dropWhile Char.isDigit)

/-- The fraction of a number, when a point and at least one digit follow. -/
def fraction? : List Char → Option (List Char × List Char)
  | '.' :: rest =>
    let (digits, rest) := spanDigits rest
    if digits.isEmpty then none else some (digits, rest)
  | _ => none

/-- The digits of an exponent with its sign. -/
def signedExponent? (characters : List Char) : Option (Int × List Char) :=
  let (negative, body) := match characters with
    | '-' :: rest => (true, rest)
    | '+' :: rest => (false, rest)
    | rest => (false, rest)
  let (digits, rest) := spanDigits body
  if digits.isEmpty then none
  else
    let magnitude : Int := Numeral.digitsValue digits
    some (if negative then -magnitude else magnitude, rest)

/-- The exponent of a number, when a letter `e` and at least one digit follow. -/
def exponent? : List Char → Option (Int × List Char)
  | 'e' :: rest => signedExponent? rest
  | 'E' :: rest => signedExponent? rest
  | _ => none

/-- The whole part of a number: a single zero, or digits that do not start with one. -/
def wholePart? : List Char → Option (List Char × List Char)
  | '0' :: rest => some (['0'], rest)
  | characters =>
    let (digits, rest) := spanDigits characters
    if digits.isEmpty then none else some (digits, rest)

/-- A number after its sign: an integer unless a fraction or an exponent follows. -/
def unsignedNumber (limits : Limits) (negative : Bool) (characters : List Char) :
    Except Error (Scalar × List Char) := do
  let (whole, rest) ← required (wholePart? characters)
  let (fraction, afterFraction) := (fraction? rest).getD ([], rest)
  let (power, afterPower) := (exponent? afterFraction).getD (0, afterFraction)
  if fraction.isEmpty && (exponent? afterFraction).isNone then
    if limits.digits.any (whole.length > ·) then throw (.longInteger whole.length)
    let magnitude : Int := Numeral.digitsValue whole
    return (.int (if negative then -magnitude else magnitude), afterPower)
  else
    let digits := Numeral.digitsValue (whole ++ fraction)
    return (.real (.ofDecimal negative digits (power - fraction.length)), afterPower)

/-- The text after a given word at the front. -/
def afterWord? : List Char → List Char → Option (List Char)
  | [], characters => some characters
  | _ :: _, [] => none
  | expected :: word, character :: rest =>
    if expected = character then afterWord? word rest else none

/-- The words that denote a scalar. -/
def words : List (List Char × Scalar) :=
  [("null".toList, .null), ("true".toList, .bool true), ("false".toList, .bool false),
   ("NaN".toList, .real .nan), ("Infinity".toList, .real (.infinite false)),
   ("-Infinity".toList, .real (.infinite true))]

/-- A word or a number. -/
def scalar (limits : Limits) (characters : List Char) : Except Error (Scalar × List Char) :=
  match words.findSome? fun (word, scalar) => (afterWord? word characters).map (scalar, ·) with
  | some found => .ok found
  | none =>
    match characters with
    | '-' :: rest => unsignedNumber limits true rest
    | rest => unsignedNumber limits false rest

mutual

/-- A document at the front of a text, and the text after it. The second argument bounds the
depth of the recursion. -/
def value (limits : Limits) : Nat → List Char → Except Error (Value × List Char)
  | 0, _ => .error .malformed
  | _ + 1, '"' :: rest => do
    let (text, rest) ← required (string? rest)
    return (.ofText text, rest)
  | depth + 1, '[' :: rest =>
    match limits.inner?, skipSpace rest with
    | none, _ => .error (.deepNesting false)
    | some _, ']' :: rest => .ok (.list [], rest)
    | some limits, rest => (items limits depth rest).map fun (items, rest) => (.list items, rest)
  | depth + 1, '\x7b' :: rest =>
    match limits.inner?, skipSpace rest with
    | none, _ => .error (.deepNesting true)
    | some _, '\x7d' :: rest => .ok (.map [], rest)
    | some limits, rest =>
      (entries limits depth [] rest).map fun (entries, rest) => (.map entries, rest)
  | _ + 1, characters =>
    (scalar limits characters).map fun (leaf, rest) => (.scalar leaf, rest)

/-- Items of a list up to its closing bracket. -/
def items (limits : Limits) : Nat → List Char → Except Error (List Value × List Char)
  | 0, _ => .error .malformed
  | depth + 1, characters => do
    let (item, rest) ← value limits depth characters
    match skipSpace rest with
    | ']' :: rest => return ([item], rest)
    | ',' :: rest =>
      let (more, rest) ← items limits depth (skipSpace rest)
      return (item :: more, rest)
    | _ => throw .malformed

/-- Entries of a mapping up to its closing brace, added to those read before. -/
def entries (limits : Limits) : Nat → List (Scalar × Value) → List Char →
    Except Error (List (Scalar × Value) × List Char)
  | 0, _, _ => .error .malformed
  | depth + 1, known, '"' :: rest => do
    let (key, rest) ← required (string? rest)
    match skipSpace rest with
    | ':' :: rest =>
      let (content, rest) ← value limits depth (skipSpace rest)
      let known := Value.put known (.text key) content
      match skipSpace rest with
      | '\x7d' :: rest => return (known, rest)
      | ',' :: rest => entries limits depth known (skipSpace rest)
      | _ => throw .malformed
    | _ => throw .malformed
  | _ + 1, _, _ => .error .malformed

end

/-- The document that a whole text denotes. -/
def read (limits : Limits) (text : String) : Except Error Value := do
  let characters := text.toList
  let (document, rest) ← value limits (2 * characters.length + 2) (skipSpace characters)
  if (skipSpace rest).isEmpty then return document else throw .malformed

end TargetFeatures.Json
