import TargetFeatures.Workspace.Basic

/-!
# Options and arguments

The words after a command are options and arguments. A long option is one word and may carry its
value after an equals sign; short options may share a word, whose rest is the value of the first
one that takes a value. An option that still lacks its value takes the next word, whatever that
is. After two dashes all words are arguments; a single dash is an argument.

Words that do not fit the rules have no reading. Where options and arguments may not mix, the
first argument ends the options. A word that is a path has no reading either when the system does
not take it for one.
-/

namespace TargetFeatures.Command

/-- An option that a command knows. -/
structure OptionRule (κ : Type) where
  key : κ
  long : String
  short : Option Char
  takesValue : Bool

/-- The options in the order of their words, where those without a value carry an empty text, and
the arguments. -/
structure Words (κ : Type) where
  options : List (κ × String)
  arguments : List String
  deriving Repr

/-- Why words have no reading. -/
inductive WordError where
  | unfit
  | path (error : FileError)
  deriving Repr

/-- The path that a word is. One with too long a name is found out later. -/
def pathOfWord (word : String) : Except WordError Path :=
  let path := Path.ofText word
  match path.defect? with
  | none => .ok path
  | some .nameTooLong => .ok path
  | some defect => .error (.path ⟨defect, path⟩)

/-- What one word of options says: the options in it, and the one that the next word is the value
of. -/
structure OptionWord (κ : Type) where
  options : List (κ × String)
  awaiting : Option κ
  deriving Repr

namespace OptionRule

variable {κ : Type}

/-- An option without a value. -/
def flag (key : κ) (long : String) (short : Option Char) : OptionRule κ := ⟨key, long, short, false⟩

/-- An option with a value. -/
def valued (key : κ) (long : String) (short : Option Char) : OptionRule κ :=
  ⟨key, long, short, true⟩

/-- The option in a word, with the value attached to it if there is one. -/
def read? (rule : OptionRule κ) (attached : Option String) : Option (OptionWord κ) :=
  match rule.takesValue, attached with
  | true, some value => some ⟨[(rule.key, value)], none⟩
  | true, none => some ⟨[], some rule.key⟩
  | false, some _ => none
  | false, none => some ⟨[(rule.key, "")], none⟩

end OptionRule

namespace OptionWord

variable {κ : Type}

/-- Splits a word at its first equals sign. -/
def splitValue (word : List Char) : String × Option String :=
  match word.dropWhile (· ≠ '=') with
  | _ :: value => (String.ofList (word.takeWhile (· ≠ '=')), some (String.ofList value))
  | [] => (String.ofList word, none)

/-- Reads the characters after the dash of short options. -/
def ofShort? (rules : List (OptionRule κ)) : List Char → Option (OptionWord κ)
  | [] => some ⟨[], none⟩
  | character :: rest =>
    match rules.find? (·.short == some character) with
    | none => none
    | some rule =>
      if rule.takesValue then
        rule.read? (if rest.isEmpty then none else some (String.ofList rest))
      else do
        let word ← ofShort? rules rest
        return ⟨(rule.key, "") :: word.options, word.awaiting⟩

/-- Reads a word that starts with a dash. -/
def ofText? (rules : List (OptionRule κ)) (word : String) : Option (OptionWord κ) :=
  let (name, attached) := splitValue word.toList
  match rules.find? (·.long == name) with
  | some rule => rule.read? attached
  | none =>
    match word.toList with
    | '-' :: '-' :: _ => none
    | '-' :: rest => ofShort? rules rest
    | _ => none

end OptionWord

namespace Words

variable {κ : Type}

/-- Words with options put in front. -/
def withOptions (options : List (κ × String)) (words : Words κ) : Words κ :=
  { words with options := options ++ words.options }

/-- Words with an argument put in front. -/
def withArgument (argument : String) (words : Words κ) : Words κ :=
  { words with arguments := argument :: words.arguments }

/-- Whether a word is read as options. -/
def isOptionWord (word : String) : Bool :=
  match word.toList with
  | '-' :: _ :: _ => true
  | _ => false

/-- Reads words; `mixed` says whether options may follow arguments. -/
def read? (rules : List (OptionRule κ)) (mixed : Bool) : List String → Option (Words κ)
  | [] => some ⟨[], []⟩
  | word :: rest =>
    if word = "--" then some ⟨[], rest⟩
    else if isOptionWord word then
      match OptionWord.ofText? rules word with
      | none => none
      | some ⟨options, none⟩ => (read? rules mixed rest).map (withOptions options)
      | some ⟨options, some key⟩ =>
        match rest with
        | [] => none
        | value :: rest => (read? rules mixed rest).map (withOptions (options ++ [(key, value)]))
    else if mixed then (read? rules mixed rest).map (withArgument word)
    else some ⟨[], word :: rest⟩

/-- Reads words where options may follow arguments. -/
def read (rules : List (OptionRule κ)) (words : List String) : Except WordError (Words κ) :=
  match read? rules true words with
  | some words => .ok words
  | none => .error .unfit

/-- The value of an option, which is the last one it was given. -/
def value? [BEq κ] (words : Words κ) (key : κ) : Option String :=
  (words.options.reverse.find? (·.1 == key)).map Prod.snd

/-- Whether an option was given. -/
def has [BEq κ] (words : Words κ) (key : κ) : Bool := words.options.any (·.1 == key)

end Words

end TargetFeatures.Command
