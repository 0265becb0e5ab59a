import TargetFeatures.Numeral.Digits
import TargetFeatures.Text.Quoted

/-!
# Scalars

The leaves of a document: texts, numbers, truth values, points in time and raw bytes. Two
scalars may be different and still name one entry of a mapping, because numbers and truth values
are compared by value; `sameKey` is that comparison.
-/

namespace TargetFeatures

/-- A date with a time of day, and the distance from universal time in minutes when the text
gives one. -/
structure Moment where
  year : Nat
  month : Nat
  day : Nat
  hour : Nat
  minute : Nat
  second : Nat
  microsecond : Nat
  offset : Option Int
  deriving DecidableEq, Repr, Inhabited

/-- A leaf of a document. -/
inductive Scalar where
  | null
  | bool (value : Bool)
  | int (value : Int)
  | real (value : Binary64)
  | text (value : String)
  | date (year month day : Nat)
  | moment (value : Moment)
  | bytes (octets : List Nat)
  deriving DecidableEq, Repr, Inhabited

namespace Moment

/-- Days before the first of January of a year, from the year 1 on. -/
def daysBeforeYear (year : Nat) : Int :=
  let previous : Int := year - 1
  previous * 365 + previous / 4 - previous / 100 + previous / 400

/-- Whether a year has a 29th of February. -/
def isLeapYear (year : Nat) : Bool :=
  year % 4 == 0 && (year % 100 != 0 || year % 400 == 0)

/-- Number of days of a month of a year. -/
def daysInMonth (year month : Nat) : Nat :=
  match month with
  | 2 => if isLeapYear year then 29 else 28
  | 4 | 6 | 9 | 11 => 30
  | _ => 31

/-- Days before a date, from the first of January of the year 1 on. -/
def daysBefore (year month day : Nat) : Int :=
  daysBeforeYear year +
    (List.range (month - 1)).foldl (fun days index => days + daysInMonth year (index + 1)) 0 +
    (day - 1 : Int)

/-- Microseconds since the start of the year 1, in universal time when the offset is known. -/
def instant (moment : Moment) : Int :=
  let minutes := daysBefore moment.year moment.month moment.day * 1440 +
    moment.hour * 60 + moment.minute - moment.offset.getD 0
  (minutes * 60 + moment.second) * 1000000 + moment.microsecond

/-- Text of a distance from universal time. -/
def offsetText (minutes : Int) : String :=
  let text (value : Int) : String := toString value
  if minutes = 0 then "datetime.timezone.utc"
  else
    let seconds := minutes * 60
    let days := Int.fdiv seconds 86400
    let rest := Int.fmod seconds 86400
    let parts := (if days = 0 then [] else ["days=" ++ text days]) ++
      (if rest = 0 then [] else ["seconds=" ++ text rest])
    "datetime.timezone(datetime.timedelta(" ++ ", ".intercalate parts ++ "))"

/-- Text of a moment, without the smaller units that are zero. -/
def display (moment : Moment) : String :=
  let fields := [moment.year, moment.month, moment.day, moment.hour, moment.minute]
  let small :=
    if moment.microsecond ≠ 0 then [moment.second, moment.microsecond]
    else if moment.second ≠ 0 then [moment.second]
    else []
  let zone := match moment.offset with
    | none => []
    | some minutes => ["tzinfo=" ++ offsetText minutes]
  "datetime.datetime(" ++ ", ".intercalate ((fields ++ small).map Binary64.digitText ++ zone) ++ ")"

end Moment

namespace Scalar

/-- Decimal text of an integer. -/
def intText (value : Int) : String :=
  (if value < 0 then "-" else "") ++ Binary64.digitText value.natAbs

/-- Text of raw bytes. -/
def bytesText (octets : List Nat) : String :=
  let quote := Text.quoteFor (octets.map Char.ofNat)
  let octet (code : Nat) : String :=
    if code = quote.toNat ∨ code = 92 then String.ofList ['\\', Char.ofNat code]
    else if code = 9 then "\\t"
    else if code = 10 then "\\n"
    else if code = 13 then "\\r"
    else if 32 ≤ code ∧ code ≤ 126 then (Char.ofNat code).toString
    else "\\x" ++ Text.hexadecimal 2 code
  "b" ++ quote.toString ++ String.join (octets.map octet) ++ quote.toString

/-- Text of a scalar as messages show it. -/
def display : Scalar → String
  | .null => "None"
  | .bool value => if value then "True" else "False"
  | .int value => intText value
  | .real value => value.toText
  | .text value => Text.quoted value
  | .date year month day =>
    "datetime.date(" ++ ", ".intercalate ([year, month, day].map Binary64.digitText) ++ ")"
  | .moment value => value.display
  | .bytes octets => bytesText octets

/-- Whether messages can show a scalar: an integer must not be too long. -/
def isShowable : Scalar → Bool
  | .int value => !Numeral.exceedsDigitLimit value
  | _ => true

/-- The integer that a number or a truth value equals. -/
def wholeNumber? : Scalar → Option Int
  | .bool value => some (if value then 1 else 0)
  | .int value => some value
  | .real value => value.toInt?
  | _ => none

/-- Whether two scalars name the same entry of a mapping. -/
def sameKey (left right : Scalar) : Bool :=
  match left.wholeNumber?, right.wholeNumber? with
  | some leftNumber, some rightNumber => leftNumber == rightNumber
  | none, none =>
    match left, right with
    | .real leftValue, .real rightValue => leftValue.sameNumber rightValue
    | .moment leftValue, .moment rightValue =>
      leftValue.offset.isSome == rightValue.offset.isSome &&
        leftValue.instant == rightValue.instant
    | _, _ => left == right
  | _, _ => false

end Scalar

end TargetFeatures
