import TargetFeatures.Data.Value

/-!
# Writing JSON

The text of a document in ASCII: every other character is written as one escaped code unit, or as
two when it lies beyond U+FFFF. Half of a surrogate pair is a code unit already. `Spacing` says
whether the members of a list or a mapping stand on lines of their own.
-/

namespace TargetFeatures.Json

/-- Four hexadecimal digits of a code unit. -/
def unitDigits (unit : Nat) : List Char :=
  [unit / 4096 % 16, unit / 256 % 16, unit / 16 % 16, unit % 16].map Nat.digitChar

/-- A code unit written by its number. -/
def escapedUnit (unit : Nat) : List Char := '\\' :: 'u' :: unitDigits unit

/-- A code unit inside a string. -/
def escapeUnit (unit : Nat) : List Char :=
  match unit with
  | 34 => ['\\', '"']
  | 92 => ['\\', '\\']
  | 10 => ['\\', 'n']
  | 13 => ['\\', 'r']
  | 9 => ['\\', 't']
  | 12 => ['\\', 'f']
  | 8 => ['\\', 'b']
  | other => if 32 ≤ other ∧ other < 127 then [Char.ofNat other] else escapedUnit other

/-- Code units of a list of characters. -/
def toUnits (characters : List Char) : List Nat := characters.flatMap Text.charUnits

/-- A text as a string. -/
def stringText (text : String) : List Char :=
  '"' :: ((toUnits text.toList).flatMap escapeUnit ++ ['"'])

/-- A leaf of a document. -/
def scalarText : Scalar → List Char
  | .null => "null".toList
  | .bool value => (if value then "true" else "false").toList
  | .int value => (Scalar.intText value).toList
  | .real .nan => "NaN".toList
  | .real (.infinite negative) => (if negative then "-Infinity" else "Infinity").toList
  | .real value => value.toText.toList
  | .text value => stringText value
  | other => stringText other.display

/-- Key of a mapping, which is always a string. -/
def keyText : Scalar → List Char
  | .text value => stringText value
  | other => stringText other.display

/-- How members are set apart: on one line, or on lines indented by two spaces a level. -/
inductive Spacing where
  | compact
  | indented
  deriving DecidableEq, Repr

/-- What stands before the first member and after the last one, at a level. -/
def Spacing.edge (level : Nat) : Spacing → List Char
  | .compact => []
  | .indented => '\n' :: List.replicate (2 * level) ' '

/-- What stands between two members, at a level. -/
def Spacing.between (level : Nat) (spacing : Spacing) : List Char :=
  match spacing with
  | .compact => [',', ' ']
  | .indented => ',' :: spacing.edge level

mutual

/-- Text of a document that stands at a level. -/
def valueText (spacing : Spacing) (level : Nat) : Value → List Char
  | .scalar leaf => scalarText leaf
  | .list [] => ['[', ']']
  | .tuple [] => ['[', ']']
  | .list items =>
    '[' :: (spacing.edge (level + 1) ++ itemsText spacing (level + 1) items ++
      spacing.edge level ++ [']'])
  | .tuple items =>
    '[' :: (spacing.edge (level + 1) ++ itemsText spacing (level + 1) items ++
      spacing.edge level ++ [']'])
  | .map [] => ['\x7b', '\x7d']
  | .map entries =>
    '\x7b' :: (spacing.edge (level + 1) ++ entriesText spacing (level + 1) entries ++
      spacing.edge level ++ ['\x7d'])
  | .set members =>
    '[' :: (List.intercalate (spacing.between (level + 1)) (members.map scalarText) ++ [']'])
  | .recurrence _ => "null".toList

/-- Texts of the items of a list. -/
def itemsText (spacing : Spacing) (level : Nat) : List Value → List Char
  | [] => []
  | [item] => valueText spacing level item
  | item :: rest =>
    valueText spacing level item ++ spacing.between level ++ itemsText spacing level rest

/-- Texts of the entries of a mapping. -/
def entriesText (spacing : Spacing) (level : Nat) : List (Scalar × Value) → List Char
  | [] => []
  | [(key, value)] => keyText key ++ ':' :: ' ' :: valueText spacing level value
  | (key, value) :: rest =>
    keyText key ++ ':' :: ' ' :: valueText spacing level value ++
      spacing.between level ++ entriesText spacing level rest

end

/-- Text of a document on one line. -/
def compact (value : Value) : String := String.ofList (valueText .compact 0 value)

/-- Text of a document with every member on a line of its own. -/
def pretty (value : Value) : String := String.ofList (valueText .indented 0 value)

end TargetFeatures.Json
