import TargetFeatures.Text.Quoted
import TargetFeatures.Numeral.Digits

/-!
# Why a markup text has no value

A text may fail to be well formed, or it may hold a scalar that its tag promises to be something
it is not. Only the second kind has a message of its own.
-/

namespace TargetFeatures.Yaml

/-- A unit of a date or a time that is outside its range. -/
inductive TimeUnit where
  | year (value : Nat)
  | month
  | day
  | hour
  | minute
  | second
  | offset (minutes : Int)
  deriving DecidableEq, Repr

/-- Why a markup text has no value. -/
inductive Error where
  /-- The text does not follow the grammar, or the structure it describes is not allowed. -/
  | malformed
  /-- A scalar tagged as a truth value is not one of its words. -/
  | notTruthValue (text : String)
  /-- A scalar tagged as a number is empty. -/
  | emptyNumber
  /-- Digits are not digits of their base. -/
  | notInteger (base : Nat) (text : String)
  /-- An integer has too many digits. -/
  | longInteger (digits : Nat)
  /-- A scalar tagged as a number with a fraction is not one. -/
  | notReal (text : String)
  /-- A number in base sixty has a part whose weight is beyond all numbers with a fraction. -/
  | hugeWeight
  /-- A scalar tagged as a time does not have the form of one. -/
  | notTime
  /-- A mapping that stands for the value of its default key is that value itself. -/
  | endless
  /-- Sequences or mappings are nested too deeply. -/
  | deepNesting
  /-- A mapping is tagged as a time. -/
  | timeOfMapping
  /-- A date or a time does not exist. -/
  | timeRange (part : TimeUnit)
  /-- An escaped number is beyond the last character; its digits start at `place`. -/
  | characterNumber (number place : Nat)
  deriving DecidableEq, Repr

/-- Message for a unit of time outside its range. -/
def TimeUnit.message : TimeUnit → String
  | .year value => "year " ++ Binary64.digitText value ++ " is out of range"
  | .month => "month must be in 1..12"
  | .day => "day is out of range for month"
  | .hour => "hour must be in 0..23"
  | .minute => "minute must be in 0..59"
  | .second => "second must be in 0..59"
  | .offset minutes =>
    let seconds := minutes * 60
    let signed (value : Int) : String :=
      (if value < 0 then "-" else "") ++ Binary64.digitText value.natAbs
    let days := Int.fdiv seconds 86400
    let rest := Int.fmod seconds 86400
    let parts := (if days = 0 then [] else ["days=" ++ signed days]) ++
      (if rest = 0 then [] else ["seconds=" ++ signed rest])
    "offset must be a timedelta strictly between -timedelta(hours=24) and " ++
      "timedelta(hours=24), not datetime.timedelta(" ++ ", ".intercalate parts ++ ")."

/-- Greatest number of characters of a text that the message about a bad integer shows. -/
def shownLength : Nat := 200

/-- The greatest number that is looked up as the number of a character. -/
def greatestNumber : Nat := 0x7FFFFFFF

/-- Message of an error; a malformed text has none. -/
def Error.message : Error → String
  | .malformed => ""
  | .notTruthValue text => Text.quoted text
  | .emptyNumber => "string index out of range"
  | .notInteger base text =>
    "invalid literal for int() with base " ++ Binary64.digitText base ++ ": " ++
      String.ofList ((Text.quoted text).toList.take shownLength)
  | .longInteger digits => Numeral.digitLimitMessage (some digits)
  | .notReal text => "could not convert string to float: " ++ Text.quoted text
  | .hugeWeight => "int too large to convert to float"
  | .notTime => "'NoneType' object has no attribute 'groupdict'"
  | .endless => "maximum recursion depth exceeded"
  | .deepNesting => "maximum recursion depth exceeded"
  | .timeOfMapping => "expected string or bytes-like object, got 'list'"
  | .timeRange part => part.message
  | .characterNumber number _ =>
    if number > greatestNumber then "Python int too large to convert to C int"
    else "chr() arg not in range(0x110000)"

end TargetFeatures.Yaml
