import TargetFeatures.Numeral.LenientInteger
import TargetFeatures.Spec.Defect

/-!
# Fields of a record

Decoders for the values that the fields of a catalog hold, and for records as mappings from field
names to values. Fields that a record does not have are ignored, and a field that is null is not
the same as one that is absent.
-/

namespace TargetFeatures

/-- A decoder: it makes a value of a document or reports what is wrong with it. -/
abbrev Decoder (α : Type) := Value → Checked α

namespace Decoder

/-- The text that octets denote in UTF-8. -/
def utf8? (octets : List Nat) : Option String :=
  String.fromUTF8? (ByteArray.mk (octets.map UInt8.ofNat).toArray)

/-- A text. Octets are taken as UTF-8; nothing else is converted. -/
def text : Decoder String
  | .scalar (.text value) => .valid value
  | .scalar (.bytes octets) =>
    match utf8? octets with
    | some value => .valid value
    | none => .fail .notUnicode
  | _ => .fail .notText

/-- An integer written as text. -/
def integerText (value : String) : Checked Int :=
  match Numeral.lenientInteger value with
  | .ok number => .valid number
  | .error .unreadable => .fail .unreadableInteger
  | .error .tooLong => .fail .oversizedInteger

/-- The bound of the integers that fit into sixty-four bits. -/
def wordBound : Int := 9223372036854775808

/-- An integer. A truth value counts as one or zero, a number with a zero fraction inside the
bounds of a word and a text that denotes an integer count as that integer. A text is looked into
only if it has a form in UTF-8. -/
def integer : Decoder Int
  | .scalar (.int value) => .valid value
  | .scalar (.bool value) => .valid (if value then 1 else 0)
  | .scalar (.text value) => if Text.hasHalf value then .fail .notUnicode else integerText value
  | .scalar (.bytes octets) => integerText ((utf8? octets).getD "")
  | .scalar (.real (.finite negative significand exponent)) =>
    match (Binary64.finite negative significand exponent).toInt? with
    | some number =>
      if -wordBound < number ∧ number < wordBound then .valid number else .fail .oversizedInteger
    | none => .fail .fractionalInteger
  | .scalar (.real _) => .fail .notFinite
  | _ => .fail .notInteger

/-- Null, or what another decoder accepts. -/
def nullable {α : Type} (decode : Decoder α) : Decoder (Option α)
  | .scalar .null => .valid none
  | value => (decode value).map some

/-- The members of a list, a tuple or a set. -/
def members? : Value → Option (List Value)
  | .list items => some items
  | .tuple items => some items
  | .set members => some (members.map .scalar)
  | _ => none

/-- Results for the items of a list, each at its position. -/
def items {α : Type} (decode : Decoder α) : Nat → List Value → List (Checked α)
  | _, [] => []
  | position, item :: rest =>
    (decode item).within (.number position) :: items decode (position + 1) rest

/-- A list of values. -/
def list {α : Type} (decode : Decoder α) : Decoder (List α) := fun value =>
  match members? value with
  | some content => Checked.all (items decode 0 content)
  | none => .fail .notList

/-- Step for a key of a mapping. Integers inside the bounds of a word are positions, the others
are names; a name is shown in UTF-8. -/
def keyStep : Scalar → PathStep
  | .text name => .name (Text.replaceHalves name)
  | .bool value => .number (if value then 1 else 0)
  | .int value =>
    if -wordBound ≤ value ∧ value < wordBound then .number value
    else .name (if (Scalar.int value).isShowable then Scalar.intText value
      else "<unprintable int object>")
  | other => .name other.display

/-- Results for the entries of a mapping from texts to texts. -/
def textEntries : List (Scalar × Value) → List (Checked (String × String))
  | [] => []
  | (key, value) :: rest =>
    let step := keyStep key
    let name := ((text (.scalar key)).within (.name "[key]")).within step
    Checked.apply (name.map Prod.mk) ((text value).within step) :: textEntries rest

/-- A mapping from texts to texts. -/
def textMapping : Decoder (List (String × String))
  | .map entries => Checked.all (textEntries entries)
  | _ => .fail .notMapping

/-- A record: a mapping whose entries another function decodes. -/
def record {α : Type} (kind : String) (decode : List (Scalar × Value) → Checked α) : Decoder α
  | .map entries => decode entries
  | _ => .fail (.notRecord kind)

/-- A field that has to be present. -/
def requiredField {α : Type} (entries : List (Scalar × Value)) (field : String)
    (decode : Decoder α) : Checked α :=
  ((Value.lookup? entries field).elim (.fail .missing) decode).within (.name field)

/-- A field with a value for when it is absent. -/
def optionalField {α : Type} (entries : List (Scalar × Value)) (field : String) (absent : α)
    (decode : Decoder α) : Checked α :=
  ((Value.lookup? entries field).elim (.valid absent) decode).within (.name field)

end Decoder

end TargetFeatures
