import TargetFeatures.Json.Reader

/-!
# Kinds of nodes

A tag says what kind of value a node denotes. A plain scalar without a tag gets one from its
form: it may be one of a few words, a number in one of several notations, or a time. The forms
are stated here as recognisers on lists of characters. One line feed after a form does not
matter.
-/

namespace TargetFeatures.Yaml

/-- What kind of value a node denotes. -/
inductive Tag where
  | null
  | bool
  | int
  | real
  | time
  | text
  | binary
  | sequence
  | mapping
  | set
  | orderedMapping
  | pairs
  /-- A key whose value is merged into the mapping around it. -/
  | merge
  /-- The default key of a mapping. -/
  | default
  | unknown
  deriving DecidableEq, Repr, Inhabited

namespace Tag

/-- The namespace of the tags of the format. -/
def core : String := "tag:yaml.org,2002:"

/-- Tags by the names that explicit tags use. -/
def names : List (String × Tag) :=
  [("null", .null), ("bool", .bool), ("int", .int), ("float", .real), ("timestamp", .time),
   ("str", .text), ("binary", .binary), ("seq", .sequence), ("map", .mapping), ("set", .set),
   ("omap", .orderedMapping), ("pairs", .pairs), ("merge", .merge), ("value", .default)]

/-- The tag that a full name denotes. -/
def ofName (name : String) : Tag :=
  match names.find? fun (short, _) => core ++ short == name with
  | some (_, tag) => tag
  | none => .unknown

/-- Whether a tag says that a node denotes a value of its own. -/
def isConvertible : Tag → Bool
  | .merge | .default | .unknown => false
  | _ => true

/-! ## Forms of plain scalars -/

/-- Words for truth values, in lower case. -/
def trueWords : List String := ["yes", "true", "on"]

/-- Words for the opposite truth value, in lower case. -/
def falseWords : List String := ["no", "false", "off"]

/-- The spellings of a word: in lower case, capitalised, and in upper case. -/
def spellings (word : String) : List String := [word, word.capitalize, word.toUpper]

/-- Whether a text is a word for a truth value. -/
def isBoolForm (text : String) : Bool :=
  ((trueWords ++ falseWords).flatMap spellings).contains text

/-- Whether a text is a word for nothing. -/
def isNullForm (text : String) : Bool := ["~", "null", "Null", "NULL", ""].contains text

/-- Whether a text is a mark of the format itself, which stands for no value. -/
def isMarkForm (text : String) : Bool := ["!", "&", "*"].contains text

/-- A text without the line feed at its end, if anything stands before that. -/
def dropFinalBreak (text : String) : String :=
  match text.toList.reverse with
  | '\n' :: last :: before => String.ofList (last :: before).reverse
  | _ => text

/-- A text without a leading sign. -/
def dropSign : List Char → List Char
  | '-' :: rest => rest
  | '+' :: rest => rest
  | rest => rest

/-- Whether a character is a digit or an underscore. -/
def isGrouped (character : Char) : Bool := character.isDigit || character == '_'

/-- Whether a text consists of parts in base sixty, each after a colon, with at least one, and
what follows them satisfies a condition. -/
def sixties (ending : List Char → Bool) : List Char → Bool
  | ':' :: ten :: one :: rest =>
    if '0' ≤ ten && ten ≤ '5' && one.isDigit then ending rest || sixties ending rest
    else if ten.isDigit then ending (one :: rest) || sixties ending (one :: rest)
    else false
  | [':', one] => one.isDigit && ending []
  | _ => false

/-- Whether a text is a fraction: a point, then digits and underscores. -/
def isPointAndDigits : List Char → Bool
  | '.' :: rest => rest.all isGrouped
  | _ => false

/-- Whether a text is empty or an exponent with a sign. -/
def isExponentOrEnd : List Char → Bool
  | [] => true
  | mark :: sign :: rest =>
    (mark == 'e' || mark == 'E') && (sign == '-' || sign == '+') && !rest.isEmpty &&
      rest.all Char.isDigit
  | _ => false

/-- Whether a text is an integer in one of its notations. -/
def isIntForm (characters : List Char) : Bool :=
  match dropSign characters with
  | ['0'] => true
  | '0' :: 'b' :: rest => !rest.isEmpty && rest.all ("01_".contains ·)
  | '0' :: 'x' :: rest =>
    !rest.isEmpty && rest.all fun character => (Json.hexDigit? character).isSome || character == '_'
  | '0' :: rest => rest.all ("01234567_".contains ·)
  | first :: rest =>
    first.isDigit && (rest.all isGrouped || sixties List.isEmpty (rest.dropWhile isGrouped))
  | [] => false

/-- Whether a text is a number with a point in one of its notations. -/
def isRealForm (characters : List Char) : Bool :=
  let unsigned := dropSign characters
  let whole := unsigned.dropWhile isGrouped
  let afterPoint := (whole.drop 1).dropWhile isGrouped
  let positional := unsigned.head?.any Char.isDigit &&
    ((whole.head? == some '.' && isExponentOrEnd afterPoint) || sixties isPointAndDigits whole)
  let fraction := match characters with
    | '.' :: first :: rest => first.isDigit && isExponentOrEnd (rest.dropWhile isGrouped)
    | _ => false
  let infinite := [".inf", ".Inf", ".INF"].contains (String.ofList unsigned)
  let nan := [".nan", ".NaN", ".NAN"].contains (String.ofList characters)
  positional || fraction || infinite || nan

/-! ## Times -/

/-- One or two digits, their number, and the text after them. -/
def oneOrTwoDigits? : List Char → Option (Nat × Nat × List Char)
  | first :: second :: rest =>
    match Numeral.digit? first, Numeral.digit? second with
    | some ten, some one => some (10 * ten + one, 2, rest)
    | some one, none => some (one, 1, second :: rest)
    | none, _ => none
  | [only] => (Numeral.digit? only).map fun one => (one, 1, [])
  | [] => none

/-- Two digits and the text after them. -/
def twoDigits? (characters : List Char) : Option (Nat × List Char) :=
  match oneOrTwoDigits? characters with
  | some (value, 2, rest) => some (value, rest)
  | _ => none

/-- A time of day as it is written. -/
structure WrittenTime where
  hour : Nat
  minute : Nat
  second : Nat
  microsecond : Nat
  /-- Minutes from universal time. -/
  offset : Option Int
  deriving Repr

/-- A date, with or without a time, as it is written. -/
structure WrittenDate where
  year : Nat
  month : Nat
  day : Nat
  time : Option WrittenTime
  /-- Whether the month and the day have two digits each. -/
  padded : Bool
  deriving Repr

/-- The distance from universal time that ends a time: nothing, a letter, or hours and minutes
with a sign. -/
def offset? (characters : List Char) : Option (Option Int) :=
  match characters.dropWhile fun character => character == ' ' || character == '\t' with
  | [] => if characters.isEmpty then some none else none
  | ['Z'] => some (some 0)
  | sign :: rest =>
    if sign == '-' || sign == '+' then
      match oneOrTwoDigits? rest with
      | none => none
      | some (hours, _, rest) =>
        let minutes? := match rest with
          | [] => some 0
          | ':' :: rest =>
            match twoDigits? rest with
            | some (minutes, []) => some minutes
            | _ => none
          | _ => none
        minutes?.map fun minutes =>
          let total : Int := hours * 60 + minutes
          some (if sign == '-' then -total else total)
    else none

/-- Microseconds that the digits after a point denote. -/
def microseconds (digits : List Char) : Nat :=
  Numeral.digitsValue ((digits ++ List.replicate 6 '0').take 6)

/-- A time of day up to the end of a text. -/
def time? (characters : List Char) : Option WrittenTime := do
  let (hour, _, rest) ← oneOrTwoDigits? characters
  let (minute, rest) ← if rest.head? == some ':' then twoDigits? (rest.drop 1) else none
  let (second, rest) ← if rest.head? == some ':' then twoDigits? (rest.drop 1) else none
  let fraction := if rest.head? == some '.' then (rest.drop 1).takeWhile Char.isDigit else []
  let rest := if rest.head? == some '.' then (rest.drop 1).dropWhile Char.isDigit else rest
  let offset ← offset? rest
  return ⟨hour, minute, second, microseconds fraction, offset⟩

/-- The text after what separates a date from a time. -/
def afterDateMark? : List Char → Option (List Char)
  | 'T' :: rest => some rest
  | 't' :: rest => some rest
  | characters =>
    let rest := characters.dropWhile fun character => character == ' ' || character == '\t'
    if rest.length < characters.length then some rest else none

/-- A date with an optional time, up to the end of a text. -/
def date? (characters : List Char) : Option WrittenDate := do
  let (century, rest) ← twoDigits? characters
  let (years, rest) ← twoDigits? rest
  let (month, monthDigits, rest) ←
    if rest.head? == some '-' then oneOrTwoDigits? (rest.drop 1) else none
  let (day, dayDigits, rest) ←
    if rest.head? == some '-' then oneOrTwoDigits? (rest.drop 1) else none
  let padded := monthDigits == 2 && dayDigits == 2
  let year := 100 * century + years
  if rest.isEmpty then return ⟨year, month, day, none, padded⟩
  else
    let rest ← afterDateMark? rest
    return ⟨year, month, day, some (← time? rest), padded⟩

/-- Whether a text is a time: a date alone needs two digits for its month and day. -/
def isTimeForm (characters : List Char) : Bool :=
  match date? characters with
  | some written => written.padded || written.time.isSome
  | none => false

/-- The tag that a text has by its form. -/
def ofForm (text : String) : Tag :=
  let characters := text.toList
  if isBoolForm text then .bool
  else if isRealForm characters then .real
  else if isIntForm characters then .int
  else if text == "<<" then .merge
  else if isNullForm text then .null
  else if isTimeForm characters then .time
  else if text == "=" then .default
  else if isMarkForm text then .unknown
  else .text

/-- The tag of a scalar without a tag of its own. -/
def ofPlain (text : String) : Tag := ofForm (dropFinalBreak text)

end Tag

end TargetFeatures.Yaml
