import TargetFeatures.Yaml.Cursor
import TargetFeatures.Yaml.Error
import TargetFeatures.Json.Reader

/-!
# Scalars between quotes

Between apostrophes only a doubled apostrophe is special; between quotation marks a backslash
starts an escape. In both, a line end with the blanks around it becomes one space, and further
empty lines become line feeds.
-/

namespace TargetFeatures.Yaml.QuotedScalar

/-- The character that a backslash and one more character stand for. -/
def shortEscape? (character : Char) : Option Char :=
  [('0', '\x00'), ('a', '\x07'), ('b', '\x08'), ('t', '\t'), ('\t', '\t'), ('n', '\n'),
   ('v', '\x0b'), ('f', '\x0c'), ('r', '\r'), ('e', '\x1b'), (' ', ' '), ('"', '"'),
   ('\\', '\\'), ('/', '/'), ('N', '\x85'), ('_', '\xa0'), ('L', '\u2028'),
   ('P', '\u2029')].lookup character

/-- Number of hexadecimal digits that follow an escape letter. -/
def escapeWidth? (character : Char) : Option Nat :=
  [('x', 2), ('u', 4), ('U', 8)].lookup character

/-- Number written with hexadecimal digits. -/
def hexNumber? (digits : List Char) : Option Nat :=
  digits.foldl
    (fun number digit => do return 16 * (← number) + (← Json.hexDigit? digit)) (some 0)

/-- Line feeds for the empty lines here, and the place of the next visible character. A document
separator ends the text too early. The first argument bounds the number of lines. -/
def emptyLines : Nat → Cursor → Except Error (List Char × Cursor)
  | 0, cursor => return ([], cursor)
  | depth + 1, cursor =>
    if cursor.atSeparator then throw .malformed
    else
      let after := (cursor.span fun character => character == ' ' || character == '\t').2
      match after.takeBreak? with
      | some (value, after) => do
        let (more, after) ← emptyLines depth after
        return (value :: more, after)
      | none => return ([], after)

/-- Blanks inside the quotes, folded when they contain a line end. -/
def blanks (cursor : Cursor) : Except Error (List Char × Cursor) := do
  let (run, after) := cursor.span fun character => character == ' ' || character == '\t'
  match after.takeBreak? with
  | some (value, after) =>
    let (more, after) ← emptyLines (after.left + 1) after
    if value != '\n' then return (value :: more, after)
    else if more.isEmpty then return ([' '], after)
    else return (more, after)
  | none => if after.rest.isEmpty then throw .malformed else return (run, after)

/-- An escape, from the character after the backslash on. -/
def escape (cursor : Cursor) : Except Error (List Char × Cursor) :=
  match cursor.rest with
  | [] => throw .malformed
  | character :: rest =>
    match shortEscape? character, escapeWidth? character with
    | some value, _ => return ([value], cursor.next)
    | none, some width =>
      if (rest.take width).length < width then throw .malformed
      else
        match hexNumber? (rest.take width) with
        | none => throw .malformed
        | some number =>
          if number ≥ 0x110000 then throw (.characterNumber number (cursor.index + 1))
          else return ([Text.ofUnit number], cursor.advance (width + 1))
    | none, none =>
      if isBreak character then emptyLines (cursor.left + 1) cursor.next else throw .malformed

/-- Characters up to the closing quote, and the place after it. The first argument bounds the
number of steps. -/
def body (double : Bool) : Nat → Cursor → Except Error (List Char × Cursor)
  | 0, _ => throw .malformed
  | depth + 1, cursor =>
    match cursor.rest with
    | [] => throw .malformed
    | '\'' :: '\'' :: _ =>
      if double then do
        let (more, after) ← body double depth cursor.next
        return ('\'' :: more, after)
      else do
        let (more, after) ← body double depth (cursor.advance 2)
        return ('\'' :: more, after)
    | character :: _ => do
      if character == (if double then '"' else '\'') then return ([], cursor.next)
      else if character == '\\' && double then
        let (value, after) ← escape cursor.next
        let (more, after) ← body double depth after
        return (value ++ more, after)
      else if isGap character then
        let (value, after) ← blanks cursor
        let (more, after) ← body double depth after
        return (value ++ more, after)
      else
        let (more, after) ← body double depth cursor.next
        return (character :: more, after)

/-- The text of a quoted scalar, from its opening quote on. -/
def read (double : Bool) (cursor : Cursor) : Except Error (String × Cursor) := do
  let (characters, after) ← body double (cursor.left + 1) cursor.next
  return (String.ofList characters, after)

end TargetFeatures.Yaml.QuotedScalar
