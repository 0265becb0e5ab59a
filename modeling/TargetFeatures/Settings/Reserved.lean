import TargetFeatures.Data.Value
import TargetFeatures.Numeral.Digits

/-!
# Reserved fields

Besides its settings, a group has fields that describe the group itself. A file may name one of
them: most texts are taken and never looked at again, some fields refuse every text, and one is
needed to write the settings out.
-/

namespace TargetFeatures

/-- Why settings cannot be loaded or written out. -/
inductive SettingsError where
  /-- The file holds a document that is not a mapping. -/
  | notMapping (document : Value)
  /-- The file holds an integer with too many digits. -/
  | longInteger (digits : Nat)
  /-- The file holds lists or mappings that are nested too deeply. -/
  | deepNesting (isMapping : Bool)
  /-- A text was given as the kind of a group. -/
  | kindOfGroup
  /-- A text was given as the fields of a group. -/
  | fieldsOfGroup
  /-- A text was given as the references to a group. -/
  | referencesToGroup (group : String)
  /-- A group no longer has a description of its fields. -/
  | undescribed
  deriving Repr

/-- The word for the kind of a document that is not a mapping. -/
def Value.kindName : Value → String
  | .scalar .null => "NoneType"
  | .scalar (.bool _) => "bool"
  | .scalar (.int _) => "int"
  | .scalar (.real _) => "float"
  | .scalar (.text _) => "str"
  | _ => "list"

/-- The word for the kind of a group. -/
def groupKind (group : String) : String :=
  ([("catalog", "CatalogConfig"), ("resolver", "ResolverConfig"), ("cli", "CliConfig")].lookup
    group).getD group

/-- Message for settings that cannot be loaded or written out. -/
def SettingsError.message : SettingsError → String
  | .notMapping document => Text.quoted document.kindName ++ " object has no attribute 'get'"
  | .longInteger digits => Numeral.digitLimitMessage (some digits)
  | .deepNesting isMapping =>
    "maximum recursion depth exceeded while decoding a JSON " ++
      (if isMapping then "object" else "array") ++ " from a unicode string"
  | .kindOfGroup => "__class__ must be set to a class, not 'str' object"
  | .fieldsOfGroup => "__dict__ must be set to a dictionary, not a 'str'"
  | .referencesToGroup group =>
    "attribute '__weakref__' of " ++ Text.quoted (groupKind group) ++ " objects is not writable"
  | .undescribed => "'str' object has no attribute 'values'"

/-- What becomes of a text that is given to a reserved field. -/
inductive ReservedField where
  /-- It is taken and never looked at. -/
  | idle
  /-- It takes the place of the description of the group. -/
  | description
  /-- It is refused. -/
  | refused (error : SettingsError)
  deriving Repr

namespace ReservedField

/-- The names of the reserved fields that take every text without a consequence. -/
def idleNames : List String :=
  ["__annotations__", "__dataclass_params__", "__delattr__", "__dir__", "__doc__", "__eq__",
   "__format__", "__ge__", "__getattribute__", "__getstate__", "__gt__", "__hash__", "__init__",
   "__init_subclass__", "__le__", "__lt__", "__match_args__", "__module__", "__ne__", "__new__",
   "__reduce__", "__reduce_ex__", "__repr__", "__setattr__", "__sizeof__", "__str__",
   "__subclasshook__"]

/-- The reserved field of a group with a name. -/
def ofName? (group name : String) : Option ReservedField :=
  if idleNames.contains name then some .idle
  else
    match name with
    | "__dataclass_fields__" => some .description
    | "__class__" => some (.refused .kindOfGroup)
    | "__dict__" => some (.refused .fieldsOfGroup)
    | "__weakref__" => some (.refused (.referencesToGroup group))
    | _ => none

end ReservedField

end TargetFeatures
