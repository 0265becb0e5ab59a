/-!
# Line endings

A text file may end its lines with a line feed, with a carriage return, or with both. Reading
turns each of these into one line feed.
-/

namespace TargetFeatures.Text

/-- Characters with every line ending written as one line feed. -/
def unifyLineEndings : List Char → List Char
  | [] => []
  | '\r' :: '\n' :: rest => '\n' :: unifyLineEndings rest
  | character :: rest =>
    (if character = '\r' then '\n' else character) :: unifyLineEndings rest

/-- The text that a program reads from a text file. -/
def asRead (text : String) : String := String.ofList (unifyLineEndings text.toList)

end TargetFeatures.Text
