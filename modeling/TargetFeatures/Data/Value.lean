import TargetFeatures.Data.Scalar

/-!
# Documents

A document is a tree of lists and mappings over scalars. It is what a reader makes of a text and
what a writer makes a text of; catalogs and settings are decoded from one. A mapping keeps its
entries in the order in which their keys first appeared, and `put` is the only way to build one,
so no key has two entries.
-/

namespace TargetFeatures

/-- A document. Besides lists and mappings it may hold tuples and sets, which only the markup
reader makes, and so are documents in which a list or a mapping holds itself: the place where it
would begin again is marked. -/
inductive Value where
  | scalar (leaf : Scalar)
  | list (items : List Value)
  | tuple (items : List Value)
  | map (entries : List (Scalar × Value))
  | set (members : List Scalar)
  | recurrence (isMapping : Bool)
  deriving Repr, Inhabited

namespace Value

/-- The document that holds nothing. -/
def null : Value := .scalar .null

/-- A truth value as a document. -/
def ofBool (value : Bool) : Value := .scalar (.bool value)

/-- An integer as a document. -/
def ofInt (value : Int) : Value := .scalar (.int value)

/-- A text as a document. -/
def ofText (value : String) : Value := .scalar (.text value)

/-- An optional text as a document, absent being null. -/
def ofText? : Option String → Value
  | none => null
  | some value => ofText value

/-- A list of texts as a document. -/
def ofTexts (texts : List String) : Value := .list (texts.map ofText)

/-- A mapping with the given texts as keys. -/
def object (entries : List (String × Value)) : Value :=
  .map (entries.map fun (name, value) => (.text name, value))

/-- Entries of a mapping after one key was given a value: an existing key keeps its place. -/
def put (entries : List (Scalar × Value)) (key : Scalar) (value : Value) :
    List (Scalar × Value) :=
  match entries with
  | [] => [(key, value)]
  | (known, old) :: rest =>
    if known.sameKey key then (known, value) :: rest else (known, old) :: put rest key value

/-- Value under a text key. -/
def lookup? (entries : List (Scalar × Value)) (name : String) : Option Value :=
  (entries.find? fun entry => entry.1 == .text name).map Prod.snd

/-- Value of a field of a mapping; no other document has fields. -/
def field? (value : Value) (name : String) : Option Value :=
  match value with
  | .map entries => lookup? entries name
  | _ => none

/-- The text that a document is. -/
def text? : Value → Option String
  | .scalar (.text value) => some value
  | _ => none

/-- The integer that a document is. -/
def int? : Value → Option Int
  | .scalar (.int value) => some value
  | _ => none

/-- The items of a list. -/
def items? : Value → Option (List Value)
  | .list items => some items
  | _ => none

mutual

/-- Text of a document as messages show it. -/
def display : Value → String
  | .scalar leaf => leaf.display
  | .list items => "[" ++ ", ".intercalate (displayItems items) ++ "]"
  | .tuple [item] => "(" ++ display item ++ ",)"
  | .tuple items => "(" ++ ", ".intercalate (displayItems items) ++ ")"
  | .map entries => "\x7b" ++ ", ".intercalate (displayEntries entries) ++ "\x7d"
  | .set [] => "set()"
  | .set members => "\x7b" ++ ", ".intercalate (members.map Scalar.display) ++ "\x7d"
  | .recurrence isMapping => if isMapping then "\x7b...\x7d" else "[...]"

/-- Texts of the items of a list. -/
def displayItems : List Value → List String
  | [] => []
  | item :: rest => display item :: displayItems rest

/-- Texts of the entries of a mapping. -/
def displayEntries : List (Scalar × Value) → List String
  | [] => []
  | (key, value) :: rest => (key.display ++ ": " ++ display value) :: displayEntries rest

end

mutual

/-- Whether messages can show a document. -/
def isShowable : Value → Bool
  | .scalar leaf => leaf.isShowable
  | .list items => areShowable items
  | .tuple items => areShowable items
  | .map entries => areEntriesShowable entries
  | .set members => members.all Scalar.isShowable
  | .recurrence _ => true

/-- Whether messages can show all documents of a list. -/
def areShowable : List Value → Bool
  | [] => true
  | item :: rest => isShowable item && areShowable rest

/-- Whether messages can show all entries of a mapping. -/
def areEntriesShowable : List (Scalar × Value) → Bool
  | [] => true
  | (key, value) :: rest => key.isShowable && isShowable value && areEntriesShowable rest

end

end Value

end TargetFeatures
