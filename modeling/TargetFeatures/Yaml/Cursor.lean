/-!
# A place in a markup text

A cursor holds the rest of a text together with its length, the number of characters before it
and the line and column at which it starts. Indentation is structure in this format, so the lexer
asks for columns all the time; a byte order mark takes up no column. The length bounds whatever is
read from the cursor on.
-/

namespace TargetFeatures.Yaml

/-- Whether a character ends a line. -/
def isBreak (character : Char) : Bool :=
  character == '\n' || character == '\x85' || character == '\u2028' || character == '\u2029'

/-- Whether a character is a space, a tab or the end of a line. -/
def isGap (character : Char) : Bool :=
  character == ' ' || character == '\t' || isBreak character

/-- Whether a text is at its end or at the end of a line. -/
def endsLine (characters : List Char) : Bool := characters.head?.all isBreak

/-- Whether a text is at its end, at a space, at a tab or at the end of a line. -/
def startsGap (characters : List Char) : Bool := characters.head?.all isGap

/-- Whether a text is at its end, at a space or at the end of a line. -/
def endsWord (characters : List Char) : Bool :=
  characters.head?.all fun character => character == ' ' || isBreak character

/-- The character that a line end stands for inside a scalar. -/
def breakValue (character : Char) : Char := if character == '\x85' then '\n' else character

/-- A place in a text. -/
structure Cursor where
  rest : List Char
  /-- Number of characters in the rest. -/
  left : Nat
  index : Nat
  line : Nat
  column : Nat
  deriving Repr, Inhabited

namespace Cursor

/-- The start of a text. -/
def start (characters : List Char) : Cursor := ⟨characters, characters.length, 0, 0, 0⟩

/-- The place after one more character. -/
def next (cursor : Cursor) : Cursor :=
  match cursor.rest with
  | [] => cursor
  | character :: rest =>
    let (line, column) :=
      if isBreak character then (cursor.line + 1, 0)
      else if character == '\uFEFF' then (cursor.line, cursor.column)
      else (cursor.line, cursor.column + 1)
    ⟨rest, cursor.left - 1, cursor.index + 1, line, column⟩

/-- The place after a number of characters. -/
def advance (cursor : Cursor) : Nat → Cursor
  | 0 => cursor
  | count + 1 => cursor.next.advance count

/-- The longest run of characters with a property, and the place after it. -/
def span (cursor : Cursor) (property : Char → Bool) : List Char × Cursor :=
  let run := cursor.rest.takeWhile property
  (run, cursor.advance run.length)

/-- The place after the spaces. -/
def skipSpaces (cursor : Cursor) : Cursor := (cursor.span (· == ' ')).2

/-- The place after a comment, when one starts here. -/
def skipComment (cursor : Cursor) : Cursor :=
  if cursor.rest.head? == some '#' then (cursor.span (!isBreak ·)).2 else cursor

/-- The value of a line end, and the place after it, when one is here. -/
def takeBreak? (cursor : Cursor) : Option (Char × Cursor) :=
  match cursor.rest with
  | character :: _ => if isBreak character then some (breakValue character, cursor.next) else none
  | [] => none

/-- Whether a line of three dashes or three points starts here. -/
def atSeparator (cursor : Cursor) : Bool :=
  match cursor.rest with
  | '-' :: '-' :: '-' :: rest => startsGap rest
  | '.' :: '.' :: '.' :: rest => startsGap rest
  | _ => false

end Cursor

end TargetFeatures.Yaml
