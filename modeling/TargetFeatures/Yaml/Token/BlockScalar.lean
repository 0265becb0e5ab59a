import TargetFeatures.Yaml.Cursor
import TargetFeatures.Yaml.Error
import TargetFeatures.Yaml.Token.Word

/-!
# Scalars as indented blocks

A block scalar starts with a bar, which keeps its lines, or with an angle bracket, which folds
them. Its header may give the indentation and say what becomes of the line ends after the last
line.
-/

namespace TargetFeatures.Yaml.BlockScalar

/-- What becomes of the line ends after the last line. -/
inductive Chomping where
  | strip
  | clip
  | keep
  deriving DecidableEq, Repr

/-- The header of a block scalar. -/
structure Header where
  chomping : Chomping
  increment : Option Nat

/-- The chomping that an indicator asks for. -/
def chomping? (character : Char) : Option Chomping :=
  if character == '+' then some .keep else if character == '-' then some .strip else none

/-- The indentation that a digit asks for. -/
def increment? (character : Char) : Option Nat :=
  if character.isDigit then some (character.toNat - '0'.toNat) else none

/-- The header after the bar or the angle bracket. -/
def header (cursor : Cursor) : Except Error (Header × Cursor) := do
  let (chomping, afterFirst) := match cursor.rest.head?.bind chomping? with
    | some chomping => (some chomping, cursor.next)
    | none => (none, cursor)
  let (increment, afterSecond) := match afterFirst.rest.head?.bind increment? with
    | some increment => (some increment, afterFirst.next)
    | none => (none, afterFirst)
  let (chomping, afterThird) :=
    if chomping.isNone && increment.isSome then
      match afterSecond.rest.head?.bind chomping? with
      | some chomping => (some chomping, afterSecond.next)
      | none => (none, afterSecond)
    else (chomping, afterSecond)
  if increment == some 0 then throw .malformed
  else if endsWord afterThird.rest then
    return (⟨chomping.getD .clip, increment⟩, afterThird)
  else throw .malformed

/-- Line feeds for the blank lines at the start, the widest indentation among them, and the place
of the first visible character. -/
def leadingLines : Nat → Nat → Cursor → List Char × Nat × Cursor
  | 0, widest, cursor => ([], widest, cursor)
  | depth + 1, widest, cursor =>
    match cursor.takeBreak? with
    | some (value, after) =>
      let (more, widest, after) := leadingLines depth widest after
      (value :: more, widest, after)
    | none =>
      if cursor.rest.head? == some ' ' then
        leadingLines depth (max widest cursor.next.column) cursor.next
      else ([], widest, cursor)

/-- The place after the spaces up to a column. -/
def skipIndent (column : Nat) : Nat → Cursor → Cursor
  | 0, cursor => cursor
  | depth + 1, cursor =>
    if cursor.column < column && cursor.rest.head? == some ' ' then
      skipIndent column depth cursor.next
    else cursor

/-- Line feeds for the blank lines here, and the place after the indentation of the next line. -/
def blankLines (column : Nat) : Nat → Cursor → List Char × Cursor
  | 0, cursor => ([], cursor)
  | depth + 1, cursor =>
    let after := skipIndent column column cursor
    match after.takeBreak? with
    | some (value, after) =>
      let (more, after) := blankLines column depth after
      (value :: more, after)
    | none => ([], after)

/-- Whether a line of the scalar starts here. -/
def startsLine (column : Nat) (cursor : Cursor) : Bool :=
  cursor.column == column && !cursor.rest.isEmpty

/-- Whether a text starts with a space or a tab. -/
def startsBlank (characters : List Char) : Bool :=
  characters.head?.any fun character => character == ' ' || character == '\t'

/-- What stands for the line end between two lines, given the blank lines that follow it. -/
def lineEnd (folded : Bool) (leftBlank rightBlank : Bool) (value : Option Char)
    (blank : List Char) : List Char :=
  if folded && value == some '\n' && !leftBlank && !rightBlank then
    if blank.isEmpty then [' '] else []
  else value.toList

/-- The lines of the scalar, from the start of a line on; the line ends at its end are chomped.
The first argument bounds the number of lines. -/
def lines (folded : Bool) (chomping : Chomping) (column : Nat) :
    Nat → Cursor → List Char × Cursor
  | 0, cursor => ([], cursor)
  | depth + 1, cursor =>
    let (text, after) := cursor.span (!isBreak ·)
    let (value, after) := match after.takeBreak? with
      | some (value, after) => (some value, after)
      | none => (none, after)
    let (blank, after) := blankLines column (after.left + 1) after
    if startsLine column after then
      let separator :=
        lineEnd folded (startsBlank cursor.rest) (startsBlank after.rest) value blank
      let (more, after) := lines folded chomping column depth after
      (text ++ separator ++ blank ++ more, after)
    else
      let tail := match chomping with
        | .strip => []
        | .clip => value.toList
        | .keep => value.toList ++ blank
      (text ++ tail, after)

/-- The text of a block scalar inside a block with the given indentation, from its indicator
on. -/
def read (folded : Bool) (indent : Int) (cursor : Cursor) : Except Error (String × Cursor) := do
  let (header, after) ← header cursor.next
  let start ← Token.restOfLine after
  let least := max 1 (indent + 1).toNat
  let depth := start.left + 1
  let (blank, column, after) := match header.increment with
    | none =>
      let (blank, widest, after) := leadingLines depth 0 start
      (blank, max least widest, after)
    | some increment =>
      let column := least + increment - 1
      let (blank, after) := blankLines column depth start
      (blank, column, after)
  if startsLine column after then
    let (text, after) := lines folded header.chomping column depth after
    return (String.ofList (blank ++ text), after)
  else
    return (String.ofList (if header.chomping = .keep then blank else []), after)

end TargetFeatures.Yaml.BlockScalar
