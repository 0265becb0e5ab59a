import TargetFeatures.Yaml.Error

/-!
# Tokens of the markup format

The lexer turns a text into tokens. Indentation has become explicit: a block sequence or mapping
opens with a token and closes with one, and a key is announced before it starts. A text that
cannot be read to its end may still have tokens at its front; a last token then says why there
are no more.
-/

namespace TargetFeatures.Yaml

/-- A line that starts with a percent sign. -/
inductive Directive where
  | version (major minor : Nat)
  | tagHandle (handle expansion : String)
  | reserved
  deriving DecidableEq, Repr

/-- A token. The end of the text is the end of the token list, and a failure is its last
token. -/
inductive Token where
  | directive (content : Directive)
  | documentStart
  | documentEnd
  | blockSequenceStart
  | blockMappingStart
  | blockEnd
  | flowSequenceStart
  | flowSequenceEnd
  | flowMappingStart
  | flowMappingEnd
  | blockEntry
  | flowEntry
  | key
  | value
  | alias (name : String)
  | anchor (name : String)
  | tag (handle : Option String) (suffix : String)
  | scalar (text : String) (plain : Bool)
  | failure (error : Error)
  deriving DecidableEq, Repr, Inhabited

end TargetFeatures.Yaml
