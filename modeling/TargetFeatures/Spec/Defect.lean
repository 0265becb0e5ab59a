import TargetFeatures.Data.Value

/-!
# Defects of a document

Decoding a document reports everything that is wrong with it, not only the first defect. A defect
has a cause and the path of the value that has it. `Checked` is a result that is either a value
or a list of defects, and combining two of them keeps the defects of both in order.
-/

namespace TargetFeatures

/-- A step of a path into a document: a field or a key, or a position or a numeric key. -/
inductive PathStep where
  | name (field : String)
  | number (position : Int)
  deriving DecidableEq, Repr

/-- What is wrong with a value. -/
inductive DefectCause where
  | missing
  | notText
  | notUnicode
  | notInteger
  | unreadableInteger
  | oversizedInteger
  | fractionalInteger
  | notFinite
  | below (least : Int)
  | above (greatest : Int)
  | notList
  | notMapping
  | notTuple
  | tooLong (count : Nat)
  | notProfile
  | notRecord (kind : String)
  | notPair (shown : String)
  /-- It would be no pair, but cannot be shown. -/
  | unshowable
  deriving DecidableEq, Repr

namespace DefectCause

/-- Short name of a cause. -/
def kind : DefectCause → String
  | .missing => "missing"
  | .notText => "string_type"
  | .notUnicode => "string_unicode"
  | .notInteger => "int_type"
  | .unreadableInteger => "int_parsing"
  | .oversizedInteger => "int_parsing_size"
  | .fractionalInteger => "int_from_float"
  | .notFinite => "finite_number"
  | .below _ => "greater_than_equal"
  | .above _ => "less_than_equal"
  | .notList => "list_type"
  | .notMapping => "dict_type"
  | .notTuple => "tuple_type"
  | .tooLong _ => "too_long"
  | .notProfile => "literal_error"
  | .notRecord _ => "model_type"
  | .notPair _ => "value_error"
  | .unshowable => "value_error"

/-- Message for a cause. -/
def message : DefectCause → String
  | .missing => "Field required"
  | .notText => "Input should be a valid string"
  | .notUnicode => "Input should be a valid string, unable to parse raw data as a unicode string"
  | .notInteger => "Input should be a valid integer"
  | .unreadableInteger => "Input should be a valid integer, unable to parse string as an integer"
  | .oversizedInteger =>
    "Unable to parse input string as an integer, exceeded maximum size"
  | .fractionalInteger =>
    "Input should be a valid integer, got a number with a fractional part"
  | .notFinite => "Input should be a finite number"
  | .below least => "Input should be greater than or equal to " ++ Scalar.intText least
  | .above greatest => "Input should be less than or equal to " ++ Scalar.intText greatest
  | .notList => "Input should be a valid list"
  | .notMapping => "Input should be a valid dictionary"
  | .notTuple => "Input should be a valid tuple"
  | .tooLong count =>
    "Tuple should have at most 2 items after validation, not " ++ Scalar.intText count
  | .notProfile => "Input should be 'A' or 'R'"
  | .notRecord kind => "Input should be a valid dictionary or instance of " ++ kind
  | .notPair shown => "Value error, dependency must be a pair, got " ++ shown
  | .unshowable => "Value error, " ++ Numeral.digitLimitMessage none

end DefectCause

/-- A cause together with the path of the value that has it. -/
structure Defect where
  path : List PathStep
  cause : DefectCause
  deriving DecidableEq, Repr

/-- A value, or everything that is wrong with the document. -/
inductive Checked (α : Type) where
  | valid (value : α)
  | invalid (defects : List Defect)
  deriving Repr

namespace Checked

variable {α β : Type}

/-- A value with a single defect. -/
def fail (cause : DefectCause) : Checked α := .invalid [⟨[], cause⟩]

/-- The result of a function on a checked value. -/
def map (function : α → β) : Checked α → Checked β
  | .valid value => .valid (function value)
  | .invalid defects => .invalid defects

/-- A checked function applied to a checked argument: the defects of the function come first. -/
def apply : Checked (α → β) → Checked α → Checked β
  | .valid function, .valid value => .valid (function value)
  | .valid _, .invalid defects => .invalid defects
  | .invalid defects, .valid _ => .invalid defects
  | .invalid first, .invalid second => .invalid (first ++ second)

/-- A further check on a valid value. -/
def andThen (checked : Checked α) (next : α → Checked β) : Checked β :=
  match checked with
  | .valid value => next value
  | .invalid defects => .invalid defects

/-- The same result one step further down in a document. -/
def within (step : PathStep) : Checked α → Checked α
  | .valid value => .valid value
  | .invalid defects =>
    .invalid (defects.map fun defect => { defect with path := step :: defect.path })

/-- All results of a list. -/
def all : List (Checked α) → Checked (List α)
  | [] => .valid []
  | checked :: rest => apply (checked.map List.cons) (all rest)

/-- The value, when there is one. -/
def value? : Checked α → Option α
  | .valid value => some value
  | .invalid _ => none

end Checked

end TargetFeatures
